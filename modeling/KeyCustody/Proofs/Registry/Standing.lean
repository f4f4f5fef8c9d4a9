import KeyCustody.Proofs.Registry.Replay

/-!
# What stands in a store

A store that starts empty is well formed after any calls: one row or entry a key, none without a name and,
unless it is deleted, none without a reference. So what is not found can be added. A table never loses a row;
what is deleted in it stays so until it is added again, and what is added stands until it is deleted, as it
was written last.
-/

namespace KeyCustody.Registry

open Program

namespace Table

variable {t t' : Table} {tenant : Tenant} {id : String} {e : Entry}

theorem keys_add (h : t.add tenant e = (.ok (), t')) :
    t'.map key = t.map key ∨ t'.map key = t.map key ++ [(tenant, e.issuedId)] := by
  obtain ⟨-, ⟨-, rfl⟩ | ⟨_, -, -, rfl⟩⟩ := add_ok h
  · exact .inr List.map_append
  · exact .inl (keys_map fun _ => rfl)

theorem keys_update (h : t.update tenant e = (.ok (), t')) : t'.map key = t.map key := by
  obtain ⟨-, -, rfl⟩ := update_ok h
  exact keys_map fun _ => rfl

theorem keys_delete : (t.delete tenant id).2.map key = t.map key := keys_map fun _ => rfl

end Table

theorem Map.mem_keys_put {m : Map} {e : Entry} {key key' : Tenant × String} (member : key ∈ (m.put key' e).map (·.1)) :
    key ∈ m.map (·.1) ∨ key = key' := by
  obtain ⟨p, listed, rfl⟩ := List.mem_map.1 member
  obtain rfl | old := List.mem_cons.1 listed
  · exact .inr rfl
  · exact .inl (List.mem_map_of_mem (List.mem_filter.1 old).1)

namespace Store

variable {s s' : Store} {t : Trace} {v : Event} {tenant : Tenant} {id : String} {e : Entry}

/-! ## Keys -/

/-- The keys of all rows or entries, deleted or not. -/
def keys : Store → List (Tenant × String)
  | table _ rows => rows.map Table.key
  | map entries => entries.map (·.1)

theorem mem_keys_add {key : Tenant × String} (h : s.add tenant e = (.ok (), s')) (member : key ∈ s'.keys) :
    key ∈ s.keys ∨ key = (tenant, e.issuedId) := by
  obtain ⟨rows, rows', rfl, rfl, added⟩ | ⟨entries, entries', rfl, rfl, added⟩ := add_ok h
  · change key ∈ rows'.map Table.key at member
    obtain same | longer := Table.keys_add added
    · rw [same] at member
      exact .inl member
    · rw [longer] at member
      exact (List.mem_append.1 member).imp_right List.mem_singleton.1
  · obtain ⟨-, -, rfl⟩ := Map.add_ok added
    exact Map.mem_keys_put member

theorem mem_keys_update {key : Tenant × String} (h : s.update tenant e = (.ok (), s')) (member : key ∈ s'.keys) :
    key ∈ s.keys ∨ key = (tenant, e.issuedId) := by
  obtain ⟨rows, rows', rfl, rfl, updated⟩ | ⟨entries, entries', rfl, rfl, updated⟩ := update_ok h
  · change key ∈ rows'.map Table.key at member
    rw [Table.keys_update updated] at member
    exact .inl member
  · obtain ⟨-, rfl⟩ := Map.update_ok updated
    exact Map.mem_keys_put member

theorem mem_keys_delete {key : Tenant × String} (member : key ∈ (s.delete tenant id).2.keys) : key ∈ s.keys := by
  cases s with
  | table isReady rows =>
    cases isReady with
    | false => exact member
    | true =>
      change key ∈ (rows.delete tenant id).2.map Table.key at member
      rwa [Table.keys_delete] at member
  | map entries =>
    obtain ⟨p, listed, rfl⟩ := List.mem_map.1 member
    exact List.mem_map_of_mem (List.mem_filter.1 listed).1

/-! ## One call -/

/-- Every identifier is more than blanks. -/
def Named (s : Store) : Prop := ∀ key ∈ s.keys, Text.isBlankText key.2 = false

namespace Turn

theorem isMap (h : Turn s v s') : s'.isMap = s.isMap := by
  rw [h.after]
  exact isMap_after

theorem sound (h : Turn s v s') (kept : s.Sound) : s'.Sound := by
  rw [h.after]
  exact sound_after kept v

theorem named (h : Turn s v s') (kept : s.Named) : s'.Named := by
  intro key member
  cases h with
  | idle => exact kept key member
  | added added =>
    obtain old | rfl := mem_keys_add added member
    · exact kept key old
    · exact (Entry.check_iff.1 (check_of_add added)).1
  | updated updated =>
    obtain old | rfl := mem_keys_update updated member
    · exact kept key old
    · exact (Entry.check_iff.1 (check_of_update updated)).1
  | deleted deleted =>
    obtain rfl := congrArg Prod.snd deleted
    exact kept key (mem_keys_delete member)

theorem keys_kept (h : Turn s v s') (isTable : s.isMap = false) : s.keys <+: s'.keys := by
  cases h with
  | idle => exact List.prefix_rfl
  | added added =>
    obtain ⟨rows, rows', rfl, rfl, inserted⟩ | ⟨entries, entries', rfl, rfl, -⟩ := add_ok added
    · obtain same | longer := Table.keys_add inserted
      · exact ⟨[], (List.append_nil _).trans same.symm⟩
      · exact ⟨_, longer.symm⟩
    · cases isTable
  | updated updated =>
    obtain ⟨rows, rows', rfl, rfl, rewritten⟩ | ⟨entries, entries', rfl, rfl, -⟩ := update_ok updated
    · exact ⟨[], (List.append_nil _).trans (Table.keys_update rewritten).symm⟩
    · cases isTable
  | deleted deleted =>
    obtain rfl := congrArg Prod.snd deleted
    cases s with
    | table isReady rows =>
      cases isReady with
      | false => exact List.prefix_rfl
      | true => exact ⟨[], (List.append_nil _).trans Table.keys_delete.symm⟩
    | map => cases isTable

/-- In a table, what does not stand comes to stand by its addition alone. -/
theorem absent (h : Turn s v s') (isTable : s.isMap = false) (gone : s.live? tenant id = none)
    (unadded : ∀ e, e.issuedId = id → v ≠ ⟨.addEntry tenant e, .ok ()⟩) : s'.live? tenant id = none := by
  cases h with
  | idle => exact gone
  | added added =>
    rename_i tenant' e
    by_cases same : (tenant, id) = (tenant', e.issuedId)
    · obtain ⟨rfl, rfl⟩ := Prod.mk.inj same
      exact absurd rfl (unadded e rfl)
    · rw [live?_add_other added same, gone]
  | updated updated =>
    rename_i tenant' e
    by_cases same : (tenant, id) = (tenant', e.issuedId)
    · obtain ⟨rfl, rfl⟩ := Prod.mk.inj same
      -- The row that the update would have to find does not stand.
      rw [isMap_of_update gone updated] at isTable
      cases isTable
    · rw [live?_update_other updated same, gone]
  | deleted deleted =>
    rename_i tenant' id'
    obtain rfl := congrArg Prod.snd deleted
    by_cases same : (tenant, id) = (tenant', id')
    · obtain ⟨rfl, rfl⟩ := Prod.mk.inj same
      exact live?_delete_self (isClosed_of_delete deleted)
    · rw [live?_delete_other same, gone]

end Turn

/-! ## What was written last -/

/-- What stands for an entry after a call: a new one if the call has updated it. -/
def written (tenant : Tenant) (e : Entry) : Event → Entry
  | ⟨.updateEntry tenant' e', .ok _⟩ => if (tenant', e'.issuedId) = (tenant, e.issuedId) then e' else e
  | _ => e

def latest (tenant : Tenant) (e : Entry) (t : Trace) : Entry := t.foldl (written tenant) e

@[simp] theorem issuedId_written : (written tenant e v).issuedId = e.issuedId := by
  unfold written
  split
  · split_ifs with same
    · exact (Prod.mk.inj same).2
    · rfl
  · rfl

theorem written_of_unwritten (unwritten : ∀ tenant e, v ≠ ⟨.updateEntry tenant e, .ok ()⟩) :
    written tenant e v = e := by
  unfold written
  split
  · exact absurd rfl (unwritten _ _)
  · rfl

/-- What stands does so, as it was written last, until it is deleted. -/
theorem Turn.stands (h : Turn s v s') (unique : s.Unique)
    (stands : (s.live? tenant e.issuedId).map Entry.cleared = some e.cleared)
    (undeleted : v ≠ ⟨.deleteEntry tenant e.issuedId, .ok ()⟩) :
    (s'.live? tenant e.issuedId).map Entry.cleared = some (written tenant e v).cleared := by
  cases h with
  | idle _ unwritten => rwa [written_of_unwritten unwritten]
  | added added =>
    rename_i tenant' e'
    by_cases same : (tenant, e.issuedId) = (tenant', e'.issuedId)
    · obtain ⟨rfl, own⟩ := Prod.mk.inj same
      -- Nothing could be added in its place.
      rw [own, live?_add_before unique added] at stands
      cases stands
    · rw [live?_add_other added same]
      exact stands
  | updated updated =>
    rename_i tenant' e'
    by_cases same : (tenant, e.issuedId) = (tenant', e'.issuedId)
    · obtain ⟨rfl, own⟩ := Prod.mk.inj same
      rw [written, if_pos same.symm, own]
      exact (enters_update updated).self
    · rw [written, if_neg fun other => same other.symm, live?_update_other updated same]
      exact stands
  | deleted deleted =>
    rename_i tenant' id'
    obtain rfl := congrArg Prod.snd deleted
    by_cases same : (tenant, e.issuedId) = (tenant', id')
    · obtain ⟨rfl, rfl⟩ := Prod.mk.inj same
      exact absurd rfl undeleted
    · rw [live?_delete_other same]
      exact stands

/-! ## Any calls -/

section
variable (h : Path (world .clean) s t s')

include h

theorem sound_of_path (kept : s.Sound) : s'.Sound := by
  rw [path_replay h]
  exact sound_replay kept

theorem named_of_path (kept : s.Named) : s'.Named := by
  induction h with
  | nil => exact kept
  | cons answered _ ih => exact ih ((turn_of_world answered).named kept)

theorem keys_kept_of_path (isTable : s.isMap = false) : s.keys <+: s'.keys := by
  induction h with
  | nil => exact List.prefix_rfl
  | cons answered _ ih =>
    have turn := turn_of_world answered
    exact (turn.keys_kept isTable).trans (ih (turn.isMap.trans isTable))

theorem absent_of_path (isTable : s.isMap = false) (gone : s.live? tenant id = none)
    (unadded : ∀ e, e.issuedId = id → ⟨.addEntry tenant e, .ok ()⟩ ∉ t) : s'.live? tenant id = none := by
  induction h with
  | nil => exact gone
  | cons answered _ ih =>
    have turn := turn_of_world answered
    refine ih (turn.isMap.trans isTable) (turn.absent isTable gone fun e own same => ?_) fun e own member => ?_
    · exact unadded e own (same ▸ List.mem_cons_self)
    · exact unadded e own (List.mem_cons_of_mem _ member)

theorem stands_of_path (kept : s.Sound) (stands : (s.live? tenant e.issuedId).map Entry.cleared = some e.cleared)
    (undeleted : ⟨.deleteEntry tenant e.issuedId, .ok ()⟩ ∉ t) :
    (s'.live? tenant e.issuedId).map Entry.cleared = some (latest tenant e t).cleared := by
  induction h generalizing e with
  | nil => exact stands
  | @cons v _ _ _ _ answered _ ih =>
    have turn := turn_of_world answered
    obtain ⟨first, others⟩ := not_or.1 (mt List.mem_cons.2 undeleted)
    have now := turn.stands kept.unique stands (Ne.symm first)
    have own : (written tenant e v).issuedId = e.issuedId := issuedId_written
    rw [← own] at now others ⊢
    exact ih (turn.sound kept) now others

end

theorem Sound.free (kept : s.Sound) (named : Text.isBlankText e.issuedId = false) (full : e.isEmpty = false) :
    (s.add tenant e).1 = .ok () ↔ s.get tenant e.issuedId = .error (.noSecret e.issuedId) := by
  rw [add_result kept.unique kept.isOpen, Entry.check_iff.2 ⟨named, full⟩, get_eq, kept.isOpen]
  cases stands : s.live? tenant e.issuedId with
  | none => simp [Except.bind, found]
  | some e' => simp [Except.bind, found, isEmpty_of_live? kept.filled stands]

/-- The entry of a row has none for each empty reference. -/
theorem cleared_of_live? {e : Entry} (isTable : s.isMap = false) (stands : s.live? tenant id = some e) :
    e.cleared = e := by
  cases s with
  | table isReady rows =>
    obtain ⟨r, -, rfl⟩ := Option.map_eq_some_iff.1 stands
    simp [Row.toEntry, Entry.cleared, Entry.secret?, Entry.order?, Entry.present_present]
  | map => cases isTable

/-- A sound store of which every identifier is more than blanks, and which takes what it does not find. -/
structure WellFormed (s : Store) : Prop extends Sound s where
  named : s.Named
  free (tenant : Tenant) (e : Entry) (named : Text.isBlankText e.issuedId = false) (full : e.isEmpty = false) :
    (s.add tenant e).1 = .ok () ↔ s.get tenant e.issuedId = .error (.noSecret e.issuedId)

/-- What the rows of a table come to through calls. -/
structure Lasting (s : Store) (t : Trace) (s' : Store) : Prop where
  rows : s.keys <+: s'.keys
  /-- What has been deleted is not found until it is added again. -/
  gone (tenant : Tenant) (id : String) (u : Trace) (deleted : t = ⟨.deleteEntry tenant id, .ok ()⟩ :: u)
    (unadded : ∀ e, e.issuedId = id → ⟨.addEntry tenant e, .ok ()⟩ ∉ u) : s'.get tenant id = .error (.noSecret id)
  /-- What has been added is found, as it was written last, until it is deleted. -/
  found (tenant : Tenant) (e : Entry) (u : Trace) (added : t = ⟨.addEntry tenant e, .ok ()⟩ :: u)
    (undeleted : ⟨.deleteEntry tenant e.issuedId, .ok ()⟩ ∉ u) :
    s'.get tenant e.issuedId = .ok (latest tenant e u).cleared

theorem wellFormed_of_path (h : Path (world .clean) s t s') (kept : s.Sound) (named : s.Named) : s'.WellFormed where
  toSound := sound_of_path h kept
  named := named_of_path h named
  free _ _ := (sound_of_path h kept).free

theorem get_of_deleted (h : Path (world .clean) s (⟨.deleteEntry tenant id, .ok ()⟩ :: t) s') (kept : s.Sound)
    (isTable : s.isMap = false) (unadded : ∀ e, e.issuedId = id → ⟨.addEntry tenant e, .ok ()⟩ ∉ t) :
    s'.get tenant id = .error (.noSecret id) := by
  have sound := sound_of_path h kept
  obtain ⟨s₁, answered, rest⟩ := Path.cons_iff.1 h
  have turn := turn_of_world (v := ⟨.deleteEntry tenant id, .ok ()⟩) answered
  have now : s₁.live? tenant id = none := turn.after ▸ live?_delete_self kept.isOpen
  have gone := absent_of_path rest (turn.isMap.trans isTable) now unadded
  rw [get_eq, sound.isOpen, gone]
  rfl

theorem get_of_added (h : Path (world .clean) s (⟨.addEntry tenant e, .ok ()⟩ :: t) s') (kept : s.Sound)
    (isTable : s.isMap = false) (undeleted : ⟨.deleteEntry tenant e.issuedId, .ok ()⟩ ∉ t) :
    s'.get tenant e.issuedId = .ok (latest tenant e t).cleared := by
  have sound := sound_of_path h kept
  have isTable' := (isMap_of_path h).trans isTable
  obtain ⟨s₁, answered, rest⟩ := Path.cons_iff.1 h
  have admitted : Fault.clean.Admits (s.add tenant e) s (.ok ()) s₁ := answered
  have change := enters_add admitted.ok
  have last := stands_of_path rest (change.sound kept) change.self undeleted
  obtain ⟨e', stands, same⟩ := Option.map_eq_some_iff.1 last
  rw [get_of_live? sound.isOpen stands (isEmpty_of_live? sound.filled stands), ← same,
    cleared_of_live? isTable' stands]

/-- A store that starts empty is well formed after any calls, also if some of them fail without effect. In a
table no row is lost, what is deleted stays so until it is added, and what is added stands as written last. -/
theorem rows_stay_well_formed {start s₁ s₂ : Store} {t₁ t₂ : Trace}
    (empty : start = .table true [] ∨ start = .map []) (first : Path (world .clean) start t₁ s₁)
    (rest : Path (world .clean) s₁ t₂ s₂) :
    s₁.WellFormed ∧ (start = .table true [] → Lasting s₁ t₂ s₂) := by
  have kept : start.Sound := by
    obtain rfl | rfl := empty
    · exact sound_empty_table
    · exact sound_empty_map
  have named : start.Named := by
    obtain rfl | rfl := empty
    · exact List.forall_mem_nil _
    · exact List.forall_mem_nil _
  have sound := sound_of_path first kept
  refine ⟨wellFormed_of_path first kept named, ?_⟩
  rintro rfl
  have isTable : s₁.isMap = false := isMap_of_path first
  refine ⟨keys_kept_of_path rest isTable, ?_, ?_⟩
  · rintro tenant id u rfl unadded
    exact get_of_deleted rest sound isTable unadded
  · rintro tenant e u rfl undeleted
    exact get_of_added rest sound isTable undeleted

/-- A row is added, deleted and added again, with updates of which one comes too soon. -/
theorem rows_stay_well_formed_of_revived :
    ∃ s₁ s₂ s₃,
      Path (world .clean) (.table true []) [⟨.addEntry ⟨"s", "o"⟩ ⟨"k", some "r", some ""⟩, .ok ()⟩] s₁ ∧
      Path (world .clean) s₁ [⟨.deleteEntry ⟨"s", "o"⟩ "k", .ok ()⟩,
        ⟨.updateEntry ⟨"s", "o"⟩ ⟨"k", some "", some "o"⟩, .error (.noSecret "k")⟩] s₂ ∧
      Path (world .clean) s₂ [⟨.addEntry ⟨"s", "o"⟩ ⟨"k", some "r", none⟩, .ok ()⟩,
        ⟨.updateEntry ⟨"s", "o"⟩ ⟨"k", some "", some "o"⟩, .ok ()⟩] s₃ ∧
      s₁.get ⟨"s", "o"⟩ "k" = .ok ⟨"k", some "r", none⟩ ∧ s₂.get ⟨"s", "o"⟩ "k" = .error (.noSecret "k") ∧
      (s₂.add ⟨"s", "o"⟩ ⟨"k", some "r", none⟩).1 = .ok () ∧
      s₃.get ⟨"s", "o"⟩ "k" = .ok ⟨"k", none, some "o"⟩ ∧ s₁.keys <+: s₂.keys ∧ s₃.WellFormed := by
  have first : Path (world .clean) (.table true [])
      [⟨.addEntry ⟨"s", "o"⟩ ⟨"k", some "r", some ""⟩, .ok ()⟩]
      (.table true [⟨⟨"s", "o"⟩, "k", "r", "", false⟩]) :=
    .cons (.inl rfl) (.nil _)
  have second : Path (world .clean) (.table true [⟨⟨"s", "o"⟩, "k", "r", "", false⟩])
      [⟨.deleteEntry ⟨"s", "o"⟩ "k", .ok ()⟩,
        ⟨.updateEntry ⟨"s", "o"⟩ ⟨"k", some "", some "o"⟩, .error (.noSecret "k")⟩]
      (.table true [⟨⟨"s", "o"⟩, "k", "r", "", true⟩]) :=
    .cons (.inl rfl) (.cons (.inl rfl) (.nil _))
  have third : Path (world .clean) (.table true [⟨⟨"s", "o"⟩, "k", "r", "", true⟩])
      [⟨.addEntry ⟨"s", "o"⟩ ⟨"k", some "r", none⟩, .ok ()⟩,
        ⟨.updateEntry ⟨"s", "o"⟩ ⟨"k", some "", some "o"⟩, .ok ()⟩]
      (.table true [⟨⟨"s", "o"⟩, "k", "", "o", false⟩]) :=
    .cons (.inl rfl) (.cons (.inl rfl) (.nil _))
  have before := Path.append_iff.2 ⟨_, first, second⟩
  have added := (rows_stay_well_formed (.inl rfl) (.nil _) first).2 rfl
  have deleted := (rows_stay_well_formed (.inl rfl) first second).2 rfl
  have revived := rows_stay_well_formed (.inl rfl) before third
  have missing := deleted.gone _ "k" _ rfl fun _ _ member => nomatch List.mem_singleton.1 member
  refine ⟨_, _, _, first, second, third, ?_, missing, ?_, ?_, deleted.rows, ?_⟩
  · exact added.found _ ⟨"k", some "r", some ""⟩ [] rfl List.not_mem_nil
  · exact (revived.1.free _ ⟨"k", some "r", none⟩ rfl rfl).2 missing
  · exact (revived.2 rfl).found _ ⟨"k", some "r", none⟩ _ rfl fun member => nomatch List.mem_singleton.1 member
  · exact (rows_stay_well_formed (.inl rfl) (Path.append_iff.2 ⟨_, before, third⟩) (.nil _)).1

end Store

end KeyCustody.Registry
