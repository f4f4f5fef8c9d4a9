import KeyCustody.Proofs.Keyed
import KeyCustody.Registry.Map
import KeyCustody.Registry.Table
import Mathlib.Data.List.Nodup

/-!
# What stands in tables and maps

Adding, updating and deleting an entry in a table and in a map: what then stands under the identifier,
and that nothing changes under any other.
-/

namespace KeyCustody.Registry

/-! ## Entries up to empty references -/

namespace Entry

/-- The entry with none for each empty reference. -/
def cleared (e : Entry) : Entry := ⟨e.issuedId, e.secret?, e.order?⟩

theorem present_present (ref : Option String) : present (present ref) = present ref := by
  simp [present, Option.filter_filter]

@[simp] theorem secret?_cleared (e : Entry) : e.cleared.secret? = e.secret? := present_present _

@[simp] theorem order?_cleared (e : Entry) : e.cleared.order? = e.order? := present_present _

@[simp] theorem isEmpty_cleared (e : Entry) : e.cleared.isEmpty = e.isEmpty := by simp [isEmpty]

@[simp] theorem cleared_cleared (e : Entry) : e.cleared.cleared = e.cleared := by
  simp [cleared, secret?, order?, present_present]

theorem secret?_congr {e e' : Entry} (same : e'.cleared = e.cleared) : e'.secret? = e.secret? := by
  rw [← secret?_cleared, same, secret?_cleared]

theorem order?_congr {e e' : Entry} (same : e'.cleared = e.cleared) : e'.order? = e.order? := by
  rw [← order?_cleared, same, order?_cleared]

theorem pending?_congr {e e' : Entry} (same : e'.cleared = e.cleared) : e'.pending? = e.pending? := by
  rw [pending?, pending?, secret?_congr same, order?_congr same]

theorem isEmpty_congr {e e' : Entry} (same : e'.cleared = e.cleared) : e'.isEmpty = e.isEmpty := by
  rw [isEmpty, isEmpty, secret?_congr same, order?_congr same]

theorem present_getD (ref : Option String) : present ((present ref).getD "") = present ref := by
  cases h : present ref with
  | none => rfl
  | some r => exact h ▸ present_present ref

/-- An entry that names its secret waits for no order. -/
theorem pending?_of_secret {e : Entry} {ref : String} (named : e.secret? = some ref) : e.pending? = none := by
  simp [pending?, named]

/-- An entry that has a reference, and waits for no order, names its secret. -/
theorem secret?_of_full {e : Entry} (full : e.isEmpty = false) (settled : e.pending? = none) :
    ∃ ref, e.secret? = some ref := by
  cases given : e.secret? with
  | some ref => exact ⟨ref, rfl⟩
  | none =>
    have unordered : e.order? = none := by simpa [pending?, given] using settled
    simp [isEmpty, given, unordered] at full

theorem secret?_named (e : Entry) {ref : String} (present : ref ≠ "") :
    ({ e with secretRef := some ref } : Entry).secret? = some ref := by
  simp [secret?, Entry.present, present]

theorem check_iff {e : Entry} : e.check = .ok () ↔ Text.isBlankText e.issuedId = false ∧ e.isEmpty = false := by
  unfold check
  cases Text.isBlankText e.issuedId with
  | true => simp
  | false =>
    cases e.isEmpty with
    | true => simp
    | false => simp

theorem isEmpty_of_check {e : Entry} (h : e.check = .ok ()) : e.isEmpty = false := (check_iff.1 h).2

end Entry

/-! ## Tables -/

namespace Table

variable {t : Table} {tenant tenant' : Tenant} {id id' : String} {e : Entry}

def key (r : Row) : Tenant × String := (r.tenant, r.id)

/-- The entry of the live row of an identifier. -/
def live? (tenant : Tenant) (id : String) (t : Table) : Option Entry :=
  (t.find? (Row.isLive tenant id)).map Row.toEntry

theorem isFor_iff {r : Row} : r.isFor tenant id = true ↔ key r = (tenant, id) := by
  simp [Row.isFor, key]

theorem toEntry_refer {r : Row} (same : r.id = e.issuedId) : (r.refer e).toEntry = e.cleared := by
  simp only [Row.toEntry, Row.refer, Entry.cleared, same]
  congr 1
  · exact Entry.present_getD _
  · exact Entry.present_getD _

/-- A change to rows of one key alone cannot be seen under another. -/
theorem live?_map_other {q : Row → Bool} {f : Row → Row} (different : (tenant', id') ≠ (tenant, id))
    (only : ∀ r, q r = true → r.isFor tenant id = true) (kept : ∀ r, key (f r) = key r) :
    live? tenant' id' (t.map fun r => if q r then f r else r) = live? tenant' id' t := by
  have apart : ∀ r, q r = true → Row.isLive tenant' id' r = false ∧
      Row.isLive tenant' id' (f r) = false := by
    intro r changed
    have mine := isFor_iff.1 (only r changed)
    have missed : ∀ r', key r' = (tenant, id) → Row.isLive tenant' id' r' = false := by
      intro r' same
      rw [Row.isLive, Bool.and_eq_false_iff, Bool.eq_false_iff]
      exact .inl fun other => different ((isFor_iff.1 other).symm.trans same)
    exact ⟨missed r mine, missed (f r) ((kept r).trans mine)⟩
  induction t with
  | nil => rfl
  | cons r t ih =>
    simp only [live?, List.map_cons] at ih ⊢
    by_cases changed : q r = true
    · obtain ⟨before, after⟩ := apart r changed
      simp only [changed, if_true, List.find?_cons, before, after]
      exact ih
    · simp only [changed, Bool.false_eq_true, if_false, List.find?_cons]
      cases Row.isLive tenant' id' r with
      | true => rfl
      | false => exact ih

/-- A change that makes the first row of a kind the live row of its identifier. -/
theorem live?_map_self {q : Row → Bool} {f : Row → Row} {r : Row} (found : t.find? q = some r)
    (covers : ∀ r, Row.isLive tenant id r = true → q r = true)
    (live : ∀ r, q r = true → Row.isLive tenant id (f r) = true) :
    live? tenant id (t.map fun r => if q r then f r else r) = some (f r).toEntry := by
  have shown : (Row.isLive tenant id ∘ fun r => if q r then f r else r) = q := by
    funext r
    cases chosen : q r with
    | true => simpa [chosen] using live r chosen
    | false =>
      simp only [Function.comp_apply, chosen, Bool.false_eq_true, if_false]
      exact Bool.eq_false_iff.2 fun standing => by simp [covers r standing] at chosen
  have chosen : q r = true := List.find?_some found
  rw [live?, List.find?_map, shown, found]
  simp only [Option.map_some, chosen, if_true]

/-- One row a key, as the primary key of the database has it. -/
def Unique (t : Table) : Prop := (t.map key).Nodup

/-- Every live row has a reference. -/
def Filled (t : Table) : Prop := ∀ r ∈ t, r.deleted = false → r.toEntry.isEmpty = false

theorem keys_map {q : Row → Bool} {f : Row → Row} (kept : ∀ r, key (f r) = key r) :
    (t.map fun r => if q r then f r else r).map key = t.map key := by
  rw [List.map_map]
  refine List.map_congr_left fun r _ => ?_
  by_cases changed : q r = true
  · simp [changed, kept]
  · simp [changed]

theorem unique_map {q : Row → Bool} {f : Row → Row} (h : Unique t) (kept : ∀ r, key (f r) = key r) :
    Unique (t.map fun r => if q r then f r else r) := by
  rwa [Unique, keys_map kept]

theorem filled_map {q : Row → Bool} {f : Row → Row} (h : Filled t)
    (full : ∀ r, q r = true → (f r).deleted = false → (f r).toEntry.isEmpty = false) :
    Filled (t.map fun r => if q r then f r else r) := by
  intro r' member live
  obtain ⟨r, old, rfl⟩ := List.mem_map.1 member
  by_cases changed : q r = true
  · simp only [changed, if_true] at live ⊢
    exact full r changed live
  · simp only [changed, Bool.false_eq_true, if_false] at live ⊢
    exact h r old live

theorem live?_eq_none_of_find? (h : t.find? (Row.isFor tenant id) = none) :
    live? tenant id t = none := by
  have absent : t.find? (Row.isLive tenant id) = none := by
    rw [List.find?_eq_none] at h ⊢
    intro r member live
    simp only [Row.isLive, Bool.and_eq_true] at live
    exact h r member live.1
  simp [live?, absent]

/-- With one row a key, no other row is live under the key of a deleted one. -/
theorem live?_eq_none_of_deleted {r : Row} (unique : Unique t)
    (found : t.find? (Row.isFor tenant id) = some r) (deleted : r.deleted = true) :
    live? tenant id t = none := by
  have absent : t.find? (Row.isLive tenant id) = none := by
    rw [List.find?_eq_none]
    intro r' member live
    simp only [Row.isLive, Bool.and_eq_true, Bool.not_eq_true'] at live
    have mine := isFor_iff.1 (List.find?_some found)
    have same : r' = r := List.inj_on_of_nodup_map unique member (List.mem_of_find?_eq_some found)
      ((isFor_iff.1 live.1).trans mine.symm)
    rw [same, deleted] at live
    cases live.2
  simp [live?, absent]

theorem isSome_live?_of_live {r : Row} (found : t.find? (Row.isFor tenant id) = some r)
    (live : r.deleted = false) : (live? tenant id t).isSome = true := by
  simp only [live?, Option.isSome_map, List.find?_isSome]
  exact ⟨r, List.mem_of_find?_eq_some found, by simp [Row.isLive, List.find?_some found, live]⟩

/-! ### Adding -/

/-- What reviving the rows of a key makes of one of them. -/
def revive (e : Entry) (r : Row) : Row := { r.refer e with deleted := false }

theorem add_ok (h : t.add tenant e = (.ok (), t')) :
    e.check = .ok () ∧
      ((t.find? (Row.isFor tenant e.issuedId) = none ∧ t' = t ++ [Row.ofEntry tenant e]) ∨
      ∃ r, t.find? (Row.isFor tenant e.issuedId) = some r ∧ r.deleted = true ∧
        t' = t.map fun r => if Row.isFor tenant e.issuedId r then revive e r else r) := by
  unfold add at h
  split at h
  · cases h
  · rename_i checked
    refine ⟨checked, ?_⟩
    split at h
    · rename_i absent
      obtain ⟨-, rfl⟩ := Prod.mk.inj h
      exact .inl ⟨absent, rfl⟩
    · rename_i r found
      split at h
      · rename_i deleted
        obtain ⟨-, rfl⟩ := Prod.mk.inj h
        exact .inr ⟨r, found, deleted, rfl⟩
      · cases h

theorem live?_add_self (h : t.add tenant e = (.ok (), t')) :
    live? tenant e.issuedId t' = some e.cleared := by
  obtain ⟨-, ⟨absent, rfl⟩ | ⟨r, found, -, rfl⟩⟩ := add_ok h
  · have none : t.find? (Row.isLive tenant e.issuedId) = none := by
      simpa [live?] using live?_eq_none_of_find? absent
    have live : Row.isLive tenant e.issuedId (Row.ofEntry tenant e) = true := by
      simp [Row.isLive, Row.isFor, Row.ofEntry, Row.refer]
    simp only [live?, List.find?_append, none, List.find?_cons, live, Option.none_or, Option.map_some]
    exact congrArg some (toEntry_refer rfl)
  · have covers : ∀ r, Row.isLive tenant e.issuedId r = true → r.isFor tenant e.issuedId = true :=
      fun r live => (Bool.and_eq_true_iff.1 live).1
    have shown := live?_map_self found covers (f := revive e) fun r mine =>
      Bool.and_eq_true_iff.2 ⟨mine, rfl⟩
    rw [shown]
    have same := (Prod.mk.inj (isFor_iff.1 (List.find?_some found))).2
    exact congrArg some (toEntry_refer same)

theorem live?_add_other (h : t.add tenant e = (.ok (), t'))
    (different : (tenant', id') ≠ (tenant, e.issuedId)) :
    live? tenant' id' t' = live? tenant' id' t := by
  obtain ⟨-, ⟨-, rfl⟩ | ⟨r, -, -, rfl⟩⟩ := add_ok h
  · have missed : Row.isLive tenant' id' (Row.ofEntry tenant e) = false := by
      rw [Row.isLive, Bool.and_eq_false_iff, Bool.eq_false_iff]
      exact .inl fun other => different (isFor_iff.1 other).symm
    simp [live?, List.find?_append, missed]
  · exact live?_map_other different (fun _ mine => mine) (fun _ => rfl)

theorem live?_add_before (unique : Unique t) (h : t.add tenant e = (.ok (), t')) :
    live? tenant e.issuedId t = none := by
  obtain ⟨-, ⟨absent, -⟩ | ⟨r, found, deleted, -⟩⟩ := add_ok h
  · exact live?_eq_none_of_find? absent
  · exact live?_eq_none_of_deleted unique found deleted

theorem unique_add (unique : Unique t) (h : t.add tenant e = (.ok (), t')) : Unique t' := by
  obtain ⟨-, ⟨absent, rfl⟩ | ⟨r, -, -, rfl⟩⟩ := add_ok h
  · simp only [Unique, List.map_append, List.map_cons, List.map_nil]
    refine List.nodup_append.2 ⟨unique, by simp, ?_⟩
    rintro _ member _ new rfl
    obtain ⟨r, old, same⟩ := List.mem_map.1 member
    have mine : r.isFor tenant e.issuedId = true := isFor_iff.2 (same.trans (List.mem_singleton.1 new))
    exact List.find?_eq_none.1 absent r old mine
  · exact unique_map unique fun _ => rfl

theorem filled_add (filled : Filled t) (h : t.add tenant e = (.ok (), t')) : Filled t' := by
  obtain ⟨checked, ⟨-, rfl⟩ | ⟨r, -, -, rfl⟩⟩ := add_ok h
  · intro r member live
    rcases List.mem_append.1 member with old | new
    · exact filled r old live
    · obtain rfl := List.mem_singleton.1 new
      rw [Row.ofEntry, toEntry_refer rfl, Entry.isEmpty_cleared]
      exact Entry.isEmpty_of_check checked
  · refine filled_map filled fun r mine _ => ?_
    have same := (Prod.mk.inj (isFor_iff.1 mine)).2
    have shown : (revive e r).toEntry = e.cleared := toEntry_refer same
    rw [shown, Entry.isEmpty_cleared]
    exact Entry.isEmpty_of_check checked

/-- Adding answers an error exactly if the entry is malformed or its identifier has a live row. -/
theorem add_result (unique : Unique t) :
    (t.add tenant e).1 = e.check.bind fun () =>
      if (live? tenant e.issuedId t).isSome then .error (taken e.issuedId) else .ok () := by
  unfold add
  cases e.check with
  | error error => rfl
  | ok u =>
    cases found : t.find? (Row.isFor tenant e.issuedId) with
    | none => simp [live?_eq_none_of_find? found, Except.bind]
    | some r =>
      cases deleted : r.deleted with
      | true => simp [live?_eq_none_of_deleted unique found deleted, deleted, Except.bind]
      | false => simp [isSome_live?_of_live found deleted, deleted, Except.bind]

theorem add_error {error : Error} (h : (t.add tenant e).1 = .error error) :
    (t.add tenant e).2 = t := by
  unfold add at h ⊢
  cases checked : e.check with
  | error _ => rfl
  | ok _ =>
    cases found : t.find? (Row.isFor tenant e.issuedId) with
    | none => simp [checked, found] at h
    | some r =>
      cases deleted : r.deleted with
      | true => simp [checked, found, deleted] at h
      | false => simp [deleted]

/-! ### Updating -/

theorem update_ok (h : t.update tenant e = (.ok (), t')) :
    e.check = .ok () ∧ t.any (Row.isLive tenant e.issuedId) = true ∧
      t' = t.map fun r => if Row.isLive tenant e.issuedId r then r.refer e else r := by
  unfold update at h
  split at h
  · cases h
  · rename_i checked
    split at h
    · rename_i live
      obtain ⟨-, rfl⟩ := Prod.mk.inj h
      exact ⟨checked, live, rfl⟩
    · cases h

theorem any_isLive : t.any (Row.isLive tenant id) = (live? tenant id t).isSome := by
  rw [live?, Option.isSome_map, Bool.eq_iff_iff, List.find?_isSome, List.any_eq_true]

theorem isFor_of_isLive {r : Row} (h : r.isLive tenant id = true) : r.isFor tenant id = true :=
  (Bool.and_eq_true_iff.1 h).1

theorem live?_update_self (h : t.update tenant e = (.ok (), t')) :
    live? tenant e.issuedId t' = some e.cleared := by
  obtain ⟨-, live, rfl⟩ := update_ok h
  obtain ⟨r, found⟩ := Option.isSome_iff_exists.1 (List.find?_isSome.2 (List.any_eq_true.1 live))
  have shown := live?_map_self (f := fun r => r.refer e) found (fun _ live => live)
    (fun _ live => live)
  rw [shown]
  have same := (Prod.mk.inj (isFor_iff.1 (isFor_of_isLive (List.find?_some found)))).2
  exact congrArg some (toEntry_refer same)

theorem live?_update_other (h : t.update tenant e = (.ok (), t'))
    (different : (tenant', id') ≠ (tenant, e.issuedId)) :
    live? tenant' id' t' = live? tenant' id' t := by
  obtain ⟨-, -, rfl⟩ := update_ok h
  exact live?_map_other different (fun _ live => isFor_of_isLive live) (fun _ => rfl)

theorem unique_update (unique : Unique t) (h : t.update tenant e = (.ok (), t')) : Unique t' := by
  obtain ⟨-, -, rfl⟩ := update_ok h
  exact unique_map unique fun _ => rfl

theorem filled_update (filled : Filled t) (h : t.update tenant e = (.ok (), t')) : Filled t' := by
  obtain ⟨checked, -, rfl⟩ := update_ok h
  refine filled_map filled fun r live _ => ?_
  have same := (Prod.mk.inj (isFor_iff.1 (isFor_of_isLive live))).2
  rw [toEntry_refer same, Entry.isEmpty_cleared]
  exact Entry.isEmpty_of_check checked

theorem update_result :
    (t.update tenant e).1 = e.check.bind fun () =>
      if (live? tenant e.issuedId t).isSome then .ok () else .error (.noSecret e.issuedId) := by
  unfold update
  rw [any_isLive]
  cases e.check with
  | error error => rfl
  | ok u => cases (live? tenant e.issuedId t).isSome <;> rfl

theorem update_error {error : Error} (h : (t.update tenant e).1 = .error error) :
    (t.update tenant e).2 = t := by
  unfold update at h ⊢
  cases checked : e.check with
  | error _ => rfl
  | ok _ =>
    cases live : t.any (Row.isLive tenant e.issuedId) with
    | true => simp [checked, live] at h
    | false => simp

/-! ### Deleting -/

theorem live?_delete_self : live? tenant id (t.delete tenant id).2 = none := by
  simp only [live?, delete, Option.map_eq_none_iff, List.find?_eq_none, List.mem_map]
  rintro _ ⟨r, -, rfl⟩ live
  by_cases standing : r.isLive tenant id = true
  · rw [if_pos standing] at live
    cases (Bool.and_eq_true_iff.1 live).2
  · rw [if_neg standing] at live
    exact standing live

theorem live?_delete_other (different : (tenant', id') ≠ (tenant, id)) :
    live? tenant' id' (t.delete tenant id).2 = live? tenant' id' t :=
  live?_map_other different (fun _ live => isFor_of_isLive live) (fun _ => rfl)

theorem unique_delete (unique : Unique t) : Unique (t.delete tenant id).2 :=
  unique_map unique fun _ => rfl

theorem filled_delete (filled : Filled t) : Filled (t.delete tenant id).2 :=
  filled_map filled fun _ _ live => by cases live

end Table

/-! ## Maps -/

namespace Map

variable {m m' : Map} {tenant : Tenant} {e : Entry}

theorem add_ok (h : m.add tenant e = (.ok (), m')) :
    e.check = .ok () ∧ m.lookup (tenant, e.issuedId) = none ∧ m' = m.put (tenant, e.issuedId) e := by
  unfold add at h
  split at h
  · cases h
  · rename_i checked
    split at h
    · cases h
    · rename_i absent
      obtain ⟨-, rfl⟩ := Prod.mk.inj h
      exact ⟨checked, Option.not_isSome_iff_eq_none.1 absent, rfl⟩

theorem update_ok (h : m.update tenant e = (.ok (), m')) :
    e.check = .ok () ∧ m' = m.put (tenant, e.issuedId) e := by
  unfold update at h
  split at h
  · cases h
  · rename_i checked
    obtain ⟨-, rfl⟩ := Prod.mk.inj h
    exact ⟨checked, rfl⟩

theorem add_result :
    (m.add tenant e).1 = e.check.bind fun () =>
      if (m.lookup (tenant, e.issuedId)).isSome then .error (taken e.issuedId) else .ok () := by
  unfold add
  cases e.check with
  | error error => rfl
  | ok u => cases (m.lookup (tenant, e.issuedId)).isSome <;> rfl

theorem add_error {error : Error} (h : (m.add tenant e).1 = .error error) :
    (m.add tenant e).2 = m := by
  unfold add at h ⊢
  cases checked : e.check with
  | error _ => rfl
  | ok _ =>
    cases present : (m.lookup (tenant, e.issuedId)).isSome with
    | true => rfl
    | false => simp [checked, present] at h

theorem update_error {error : Error} (h : (m.update tenant e).1 = .error error) :
    (m.update tenant e).2 = m := by
  unfold update at h ⊢
  cases checked : e.check with
  | error _ => rfl
  | ok _ => simp [checked] at h

/-- Every entry has a reference. -/
def Filled (m : Map) : Prop := ∀ p ∈ m, p.2.isEmpty = false

theorem filled_put {key : Tenant × String} (filled : Filled m) (full : e.isEmpty = false) :
    Filled (m.put key e) := by
  intro p member
  rcases List.mem_cons.1 member with rfl | old
  · exact full
  · exact filled p (List.mem_filter.1 old).1

end Map

end KeyCustody.Registry
