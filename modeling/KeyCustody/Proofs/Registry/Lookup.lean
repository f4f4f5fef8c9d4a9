import KeyCustody.Proofs.Registry.Rows
import KeyCustody.Registry.Store

/-!
# What lookups in a store find

Adding, updating and deleting an entry of a store, as far as looking identifiers up can tell, whether
it is kept as a table or as a map.
-/

namespace KeyCustody.Registry

namespace Store

variable {s s' t : Store} {tenant tenant' : Tenant} {id id' : String} {e : Entry}

/-- The entry that stands under an identifier. -/
def live? (tenant : Tenant) (id : String) : Store → Option Entry
  | table _ rows => rows.live? tenant id
  | map entries => entries.lookup (tenant, id)

/-- One row or entry a key. -/
def Unique : Store → Prop
  | table _ rows => rows.Unique
  | map entries => (entries.map (·.1)).Nodup

/-- Whatever stands has a reference. -/
def Filled : Store → Prop
  | table _ rows => rows.Filled
  | map entries => entries.Filled

/-- Every entry of a map is under its own identifier, as the rows of a table are by nature. -/
def Own : Store → Prop
  | table .. => True
  | map entries => ∀ p ∈ entries, p.2.issuedId = p.1.2

/-- A database that fails whatever it is asked. -/
def isClosed : Store → Bool
  | table isReady _ => !isReady
  | map _ => false

/-- The answer to a lookup, given what stands under the identifier. -/
def found (id : String) : Option Entry → Except Error Entry
  | some e => if e.isEmpty then .error (.noSecret id) else .ok e
  | none => .error (.noSecret id)

theorem get_eq : s.get tenant id =
    if s.isClosed then .error (failedTo "get" id) else found id (s.live? tenant id) := by
  cases s with
  | table isReady rows =>
    cases isReady with
    | false => rfl
    | true =>
      simp only [get, Table.get, isClosed, live?, Table.live?]
      cases (rows.find? (Row.isLive tenant id)).map Row.toEntry <;> rfl
  | map entries =>
    simp only [get, Map.get, isClosed, live?]
    cases entries.lookup (tenant, id) <;> rfl

theorem isEmpty_of_live? (filled : s.Filled) (stands : s.live? tenant id = some e) :
    e.isEmpty = false := by
  cases s with
  | table isReady rows =>
    obtain ⟨r, found, rfl⟩ := Option.map_eq_some_iff.1 stands
    have standing : r.isLive tenant id = true := List.find?_some found
    have live := (Bool.and_eq_true_iff.1 standing).2
    exact filled r (List.mem_of_find?_eq_some found) (by simpa using live)
  | map entries =>
    obtain ⟨l₁, l₂, rfl, -⟩ := List.lookup_eq_some_iff.1 stands
    exact filled ((tenant, id), e) (by simp)

theorem live?_of_get_error {error : Error} (filled : s.Filled) (isOpen : s.isClosed = false)
    (h : s.get tenant id = .error error) : s.live? tenant id = none := by
  cases stands : s.live? tenant id with
  | none => rfl
  | some e =>
    have full := isEmpty_of_live? filled stands
    simp [get_eq, isOpen, stands, found, full] at h

theorem issuedId_of_live? (own : s.Own) (stands : s.live? tenant id = some e) : e.issuedId = id := by
  cases s with
  | table isReady rows =>
    obtain ⟨r, found, rfl⟩ := Option.map_eq_some_iff.1 stands
    have standing : r.isLive tenant id = true := List.find?_some found
    exact (Prod.mk.inj (Table.isFor_iff.1 (Table.isFor_of_isLive standing))).2
  | map entries =>
    obtain ⟨l₁, l₂, rfl, -⟩ := List.lookup_eq_some_iff.1 stands
    exact own ((tenant, id), e) (by simp)

/-- Lookups answer alike where the same stands. -/
theorem get_congr (closed : s'.isClosed = s.isClosed)
    (same : s'.live? tenant id = s.live? tenant id) : s'.get tenant id = s.get tenant id := by
  rw [get_eq, get_eq, closed, same]

theorem live?_of_get (h : s.get tenant id = .ok e) :
    s.isClosed = false ∧ s.live? tenant id = some e ∧ e.isEmpty = false := by
  rw [get_eq] at h
  cases closed : s.isClosed with
  | true => simp [closed] at h
  | false =>
    cases stands : s.live? tenant id with
    | none => simp [closed, stands, found] at h
    | some e' =>
      cases empty : e'.isEmpty with
      | true => simp [closed, stands, found, empty] at h
      | false =>
        simp only [closed, stands, found, empty, Bool.false_eq_true, if_false, Except.ok.injEq] at h
        subst h
        exact ⟨rfl, rfl, empty⟩

/-- What stands and does not wait for an order names its secret. -/
theorem secret?_of_get (h : s.get tenant id = .ok e) (settled : e.pending? = none) :
    ∃ ref, e.secret? = some ref :=
  Entry.secret?_of_full (live?_of_get h).2.2 settled

theorem get_of_live? (isOpen : s.isClosed = false) (stands : s.live? tenant id = some e)
    (full : e.isEmpty = false) : s.get tenant id = .ok e := by
  simp [get_eq, isOpen, stands, found, full]

/-! ### Adding -/

theorem add_ok (h : s.add tenant e = (.ok (), s')) :
    (∃ rows rows', s = table true rows ∧ s' = table true rows' ∧
      Table.add tenant e rows = (.ok (), rows')) ∨
    ∃ entries entries', s = map entries ∧ s' = map entries' ∧
      Map.add tenant e entries = (.ok (), entries') := by
  cases s with
  | table isReady rows =>
    cases isReady with
    | false =>
      have refused := congrArg Prod.fst h
      cases checked : e.check <;> simp [add, checked, Except.bind] at refused
    | true =>
      cases added : Table.add tenant e rows with
      | mk result rows' =>
        simp only [add, added, Prod.mk.injEq] at h
        obtain ⟨rfl, rfl⟩ := h
        exact .inl ⟨rows, rows', rfl, rfl, added⟩
  | map entries =>
    cases added : Map.add tenant e entries with
    | mk result entries' =>
      simp only [add, added, Prod.mk.injEq] at h
      obtain ⟨rfl, rfl⟩ := h
      exact .inr ⟨entries, entries', rfl, rfl, added⟩

theorem add_error {error : Error} (h : (s.add tenant e).1 = .error error) :
    (s.add tenant e).2 = s := by
  cases s with
  | table isReady rows =>
    cases isReady with
    | false => rfl
    | true => exact congrArg (table true) (Table.add_error h)
  | map entries => exact congrArg map (Map.add_error h)

theorem check_of_add (h : s.add tenant e = (.ok (), s')) : e.check = .ok () := by
  obtain ⟨rows, rows', rfl, rfl, added⟩ | ⟨entries, entries', rfl, rfl, added⟩ := add_ok h
  · exact (Table.add_ok added).1
  · exact (Map.add_ok added).1

theorem isClosed_add (h : s.add tenant e = (.ok (), s')) :
    s.isClosed = false ∧ s'.isClosed = false := by
  obtain ⟨rows, rows', rfl, rfl, added⟩ | ⟨entries, entries', rfl, rfl, added⟩ := add_ok h
  · exact ⟨rfl, rfl⟩
  · exact ⟨rfl, rfl⟩

/-- What is added is what stands under the identifier then. -/
theorem live?_add_self (h : s.add tenant e = (.ok (), s')) :
    ∃ e', s'.live? tenant e.issuedId = some e' ∧ e'.cleared = e.cleared := by
  obtain ⟨rows, rows', rfl, rfl, added⟩ | ⟨entries, entries', rfl, rfl, added⟩ := add_ok h
  · exact ⟨e.cleared, Table.live?_add_self added, e.cleared_cleared⟩
  · obtain ⟨-, -, rfl⟩ := Map.add_ok added
    exact ⟨e, Keyed.lookup_put_self, rfl⟩

theorem live?_add_other (h : s.add tenant e = (.ok (), s'))
    (different : (tenant', id') ≠ (tenant, e.issuedId)) :
    s'.live? tenant' id' = s.live? tenant' id' := by
  obtain ⟨rows, rows', rfl, rfl, added⟩ | ⟨entries, entries', rfl, rfl, added⟩ := add_ok h
  · exact Table.live?_add_other added different
  · obtain ⟨-, -, rfl⟩ := Map.add_ok added
    exact Keyed.lookup_put_other different

/-- Nothing stands under an identifier that can be added. -/
theorem live?_add_before (unique : s.Unique) (h : s.add tenant e = (.ok (), s')) :
    s.live? tenant e.issuedId = none := by
  obtain ⟨rows, rows', rfl, rfl, added⟩ | ⟨entries, entries', rfl, rfl, added⟩ := add_ok h
  · exact Table.live?_add_before unique added
  · exact (Map.add_ok added).2.1

theorem unique_add (unique : s.Unique) (h : s.add tenant e = (.ok (), s')) : s'.Unique := by
  obtain ⟨rows, rows', rfl, rfl, added⟩ | ⟨entries, entries', rfl, rfl, added⟩ := add_ok h
  · exact Table.unique_add unique added
  · obtain ⟨-, -, rfl⟩ := Map.add_ok added
    exact Keyed.nodup_put unique

theorem filled_add (filled : s.Filled) (h : s.add tenant e = (.ok (), s')) : s'.Filled := by
  obtain ⟨rows, rows', rfl, rfl, added⟩ | ⟨entries, entries', rfl, rfl, added⟩ := add_ok h
  · exact Table.filled_add filled added
  · obtain ⟨checked, -, rfl⟩ := Map.add_ok added
    exact Map.filled_put filled (Entry.isEmpty_of_check checked)

/-- Adding is refused exactly if the entry is malformed or something stands under its identifier. -/
theorem add_result (unique : s.Unique) (isOpen : s.isClosed = false) :
    (s.add tenant e).1 = e.check.bind fun () =>
      if (s.live? tenant e.issuedId).isSome then .error (taken e.issuedId) else .ok () := by
  cases s with
  | table isReady rows =>
    cases isReady with
    | false => cases isOpen
    | true => exact Table.add_result unique
  | map entries => exact Map.add_result

theorem own_add (own : s.Own) (h : s.add tenant e = (.ok (), s')) : s'.Own := by
  obtain ⟨rows, rows', rfl, rfl, added⟩ | ⟨entries, entries', rfl, rfl, added⟩ := add_ok h
  · trivial
  · obtain ⟨-, -, rfl⟩ := Map.add_ok added
    exact List.forall_mem_cons.2 ⟨rfl, fun p member => own p (List.mem_filter.1 member).1⟩

/-! ### Updating -/

theorem update_ok (h : s.update tenant e = (.ok (), s')) :
    (∃ rows rows', s = table true rows ∧ s' = table true rows' ∧
      Table.update tenant e rows = (.ok (), rows')) ∨
    ∃ entries entries', s = map entries ∧ s' = map entries' ∧
      Map.update tenant e entries = (.ok (), entries') := by
  cases s with
  | table isReady rows =>
    cases isReady with
    | false =>
      have refused := congrArg Prod.fst h
      cases checked : e.check <;> simp [update, checked, Except.bind] at refused
    | true =>
      cases updated : Table.update tenant e rows with
      | mk result rows' =>
        simp only [update, updated, Prod.mk.injEq] at h
        obtain ⟨rfl, rfl⟩ := h
        exact .inl ⟨rows, rows', rfl, rfl, updated⟩
  | map entries =>
    cases updated : Map.update tenant e entries with
    | mk result entries' =>
      simp only [update, updated, Prod.mk.injEq] at h
      obtain ⟨rfl, rfl⟩ := h
      exact .inr ⟨entries, entries', rfl, rfl, updated⟩

theorem update_error {error : Error} (h : (s.update tenant e).1 = .error error) :
    (s.update tenant e).2 = s := by
  cases s with
  | table isReady rows =>
    cases isReady with
    | false => rfl
    | true => exact congrArg (table true) (Table.update_error h)
  | map entries => exact congrArg map (Map.update_error h)

theorem check_of_update (h : s.update tenant e = (.ok (), s')) : e.check = .ok () := by
  obtain ⟨rows, rows', rfl, rfl, updated⟩ | ⟨entries, entries', rfl, rfl, updated⟩ := update_ok h
  · exact (Table.update_ok updated).1
  · exact (Map.update_ok updated).1

theorem isClosed_update (h : s.update tenant e = (.ok (), s')) :
    s.isClosed = false ∧ s'.isClosed = false := by
  obtain ⟨rows, rows', rfl, rfl, updated⟩ | ⟨entries, entries', rfl, rfl, updated⟩ := update_ok h
  · exact ⟨rfl, rfl⟩
  · exact ⟨rfl, rfl⟩

theorem live?_update_self (h : s.update tenant e = (.ok (), s')) :
    ∃ e', s'.live? tenant e.issuedId = some e' ∧ e'.cleared = e.cleared := by
  obtain ⟨rows, rows', rfl, rfl, updated⟩ | ⟨entries, entries', rfl, rfl, updated⟩ := update_ok h
  · exact ⟨e.cleared, Table.live?_update_self updated, e.cleared_cleared⟩
  · obtain ⟨-, rfl⟩ := Map.update_ok updated
    exact ⟨e, Keyed.lookup_put_self, rfl⟩

theorem live?_update_other (h : s.update tenant e = (.ok (), s'))
    (different : (tenant', id') ≠ (tenant, e.issuedId)) :
    s'.live? tenant' id' = s.live? tenant' id' := by
  obtain ⟨rows, rows', rfl, rfl, updated⟩ | ⟨entries, entries', rfl, rfl, updated⟩ := update_ok h
  · exact Table.live?_update_other updated different
  · obtain ⟨-, rfl⟩ := Map.update_ok updated
    exact Keyed.lookup_put_other different

theorem unique_update (unique : s.Unique) (h : s.update tenant e = (.ok (), s')) : s'.Unique := by
  obtain ⟨rows, rows', rfl, rfl, updated⟩ | ⟨entries, entries', rfl, rfl, updated⟩ := update_ok h
  · exact Table.unique_update unique updated
  · obtain ⟨-, rfl⟩ := Map.update_ok updated
    exact Keyed.nodup_put unique

theorem filled_update (filled : s.Filled) (h : s.update tenant e = (.ok (), s')) : s'.Filled := by
  obtain ⟨rows, rows', rfl, rfl, updated⟩ | ⟨entries, entries', rfl, rfl, updated⟩ := update_ok h
  · exact Table.filled_update filled updated
  · obtain ⟨checked, rfl⟩ := Map.update_ok updated
    exact Map.filled_put filled (Entry.isEmpty_of_check checked)

theorem own_update (own : s.Own) (h : s.update tenant e = (.ok (), s')) : s'.Own := by
  obtain ⟨rows, rows', rfl, rfl, updated⟩ | ⟨entries, entries', rfl, rfl, updated⟩ := update_ok h
  · trivial
  · obtain ⟨-, rfl⟩ := Map.update_ok updated
    exact List.forall_mem_cons.2 ⟨rfl, fun p member => own p (List.mem_filter.1 member).1⟩

/-- An update of what stands is refused exactly if it is malformed. -/
theorem update_result (isOpen : s.isClosed = false)
    (live : e.check = .ok () → (s.live? tenant e.issuedId).isSome = true) :
    (s.update tenant e).1 = e.check := by
  cases checked : e.check with
  | error error =>
    cases s with
    | table isReady rows =>
      cases isReady with
      | false => cases isOpen
      | true => exact Table.update_result.trans (by rw [checked]; rfl)
    | map entries => simp [update, Map.update, checked]
  | ok _ =>
    cases s with
    | table isReady rows =>
      cases isReady with
      | false => cases isOpen
      | true =>
        have stands : (rows.live? tenant e.issuedId).isSome = true := live checked
        exact Table.update_result.trans (by rw [checked, stands]; rfl)
    | map entries => simp [update, Map.update, checked]

/-! ### Deleting -/

theorem delete_eq (isOpen : s.isClosed = false) : (s.delete tenant id).1 = .ok () := by
  cases s with
  | table isReady rows =>
    cases isReady with
    | false => cases isOpen
    | true => rfl
  | map entries => rfl

theorem isClosed_of_delete (h : s.delete tenant id = (.ok (), s')) : s.isClosed = false := by
  cases s with
  | table isReady rows =>
    cases isReady with
    | false => cases congrArg Prod.fst h
    | true => rfl
  | map entries => rfl

theorem isClosed_delete : (s.delete tenant id).2.isClosed = s.isClosed := by
  cases s with
  | table isReady rows => cases isReady <;> rfl
  | map entries => rfl

theorem delete_error {error : Error} (h : (s.delete tenant id).1 = .error error) :
    (s.delete tenant id).2 = s := by
  cases s with
  | table isReady rows =>
    cases isReady with
    | false => rfl
    | true => cases h
  | map entries => cases h

theorem live?_delete_self (isOpen : s.isClosed = false) :
    (s.delete tenant id).2.live? tenant id = none := by
  cases s with
  | table isReady rows =>
    cases isReady with
    | false => cases isOpen
    | true => exact Table.live?_delete_self
  | map entries => exact Keyed.lookup_erase_self

theorem live?_delete_other (different : (tenant', id') ≠ (tenant, id)) :
    (s.delete tenant id).2.live? tenant' id' = s.live? tenant' id' := by
  cases s with
  | table isReady rows =>
    cases isReady with
    | false => rfl
    | true => exact Table.live?_delete_other different
  | map entries => exact Keyed.lookup_erase_other different

theorem unique_delete (unique : s.Unique) : (s.delete tenant id).2.Unique := by
  cases s with
  | table isReady rows =>
    cases isReady with
    | false => exact unique
    | true => exact Table.unique_delete unique
  | map entries => exact Keyed.nodup_erase unique

theorem filled_delete (filled : s.Filled) : (s.delete tenant id).2.Filled := by
  cases s with
  | table isReady rows =>
    cases isReady with
    | false => exact filled
    | true => exact Table.filled_delete filled
  | map entries => exact fun p member => filled p (List.mem_filter.1 member).1

theorem own_delete (own : s.Own) : (s.delete tenant id).2.Own := by
  cases s with
  | table isReady rows => cases isReady <;> trivial
  | map entries => exact fun p member => own p (List.mem_filter.1 member).1

/-- Deleting what was added undoes that, as far as lookups can tell. -/
theorem get_delete_of_add (unique : s.Unique) (h : s.add tenant e = (.ok (), s')) :
    (s'.delete tenant e.issuedId).2.get tenant' id' = s.get tenant' id' := by
  obtain ⟨before, after⟩ := isClosed_add h
  refine get_congr ((isClosed_delete.trans after).trans before.symm) ?_
  by_cases same : (tenant', id') = (tenant, e.issuedId)
  · obtain ⟨rfl, rfl⟩ := Prod.mk.inj same
    rw [live?_delete_self after, live?_add_before unique h]
  · rw [live?_delete_other same, live?_add_other h same]

/-! ### Stores that are kept well -/

/-- One row or entry a key, none without a reference, each under its own identifier, and nothing
fails. -/
structure Sound (s : Store) : Prop where
  unique : s.Unique
  filled : s.Filled
  own : s.Own
  isOpen : s.isClosed = false

theorem sound_delete (kept : s.Sound) : (s.delete tenant id).2.Sound :=
  ⟨unique_delete kept.unique, filled_delete kept.filled, own_delete kept.own,
    isClosed_delete.trans kept.isOpen⟩

theorem sound_empty_table : (table true []).Sound :=
  ⟨List.nodup_nil, by simp [Filled, Table.Filled], trivial, rfl⟩

theorem sound_empty_map : (map []).Sound :=
  ⟨List.nodup_nil, by simp [Filled, Map.Filled], by simp [Own], rfl⟩

theorem Sound.issuedId (kept : s.Sound) (stands : s.get tenant id = .ok e) : e.issuedId = id :=
  issuedId_of_live? kept.own (live?_of_get stands).2.1

/-- The change from `s` to `t` that makes an entry stand under its identifier. -/
structure Enters (tenant : Tenant) (e : Entry) (s t : Store) : Prop where
  sound : s.Sound → t.Sound
  self : (t.live? tenant e.issuedId).map Entry.cleared = some e.cleared
  other : ∀ tenant' id', (tenant', id') ≠ (tenant, e.issuedId) →
    t.live? tenant' id' = s.live? tenant' id'

theorem enters_add (h : s.add tenant e = (.ok (), t)) : Enters tenant e s t where
  sound kept := ⟨unique_add kept.unique h, filled_add kept.filled h, own_add kept.own h,
    (isClosed_add h).2⟩
  self := by
    obtain ⟨e', stands, same⟩ := live?_add_self h
    simp [stands, same]
  other _ _ different := live?_add_other h different

theorem enters_update (h : s.update tenant e = (.ok (), t)) : Enters tenant e s t where
  sound kept := ⟨unique_update kept.unique h, filled_update kept.filled h, own_update kept.own h,
    (isClosed_update h).2⟩
  self := by
    obtain ⟨e', stands, same⟩ := live?_update_self h
    simp [stands, same]
  other _ _ different := live?_update_other h different

theorem sound_add (kept : s.Sound) : (s.add tenant e).2.Sound := by
  cases result : (s.add tenant e).1 with
  | error _ => rwa [add_error result]
  | ok _ => exact (enters_add (Prod.ext result rfl)).sound kept

theorem sound_update (kept : s.Sound) : (s.update tenant e).2.Sound := by
  cases result : (s.update tenant e).1 with
  | error _ => rwa [update_error result]
  | ok _ => exact (enters_update (Prod.ext result rfl)).sound kept

theorem Enters.get_self (h : Enters tenant e s t) (kept : t.Sound) :
    ∃ e', t.get tenant e.issuedId = .ok e' ∧ e'.cleared = e.cleared := by
  obtain ⟨e', stands, same⟩ := Option.map_eq_some_iff.1 h.self
  exact ⟨e', get_of_live? kept.isOpen stands (isEmpty_of_live? kept.filled stands), same⟩

theorem Enters.get_other (h : Enters tenant e s t) (kept : s.Sound)
    (different : (tenant', id') ≠ (tenant, e.issuedId)) : t.get tenant' id' = s.get tenant' id' :=
  get_congr ((h.sound kept).isOpen.trans kept.isOpen.symm) (h.other _ _ different)

theorem get_delete_self (kept : s.Sound) :
    (s.delete tenant id).2.get tenant id = .error (.noSecret id) := by
  rw [get_eq, isClosed_delete, kept.isOpen, live?_delete_self kept.isOpen]
  rfl

theorem get_delete_other (different : (tenant', id') ≠ (tenant, id)) :
    (s.delete tenant id).2.get tenant' id' = s.get tenant' id' :=
  get_congr isClosed_delete (live?_delete_other different)

end Store

end KeyCustody.Registry
