import KeyCustody.Json.Record
import KeyCustody.Proofs.Keyed
import Mathlib.Data.List.Nodup

/-!
# Records read

What a record gives its fields, whichever of the two forms it has, and what the values of fields are read as.
-/

namespace KeyCustody.Json

variable {α : Type} {names : List String} {least : Nat} {j : Json} {fields members : List (String × Json)}
  {given : String → Option Json} {name text : String} {value : Option Json}

/-- The value gives each field what `given` says: an object among its other members, no field twice; an array in the
order of the fields, the first of which it has to give. -/
def Gives (names : List String) (least : Nat) (given : String → Option Json) : Json → Prop
  | .object members => ∀ name ∈ names, (members.filter (·.1 = name)).map (·.2) = (given name).toList
  | .array items => least ≤ items.length ∧ items.length ≤ names.length ∧
      ∀ i (h : i < names.length), given names[i] = items[i]?
  | _ => False

/-- Where no name stands twice, what stands under one is what is found. -/
theorem filter_name (distinct : (members.map (·.1)).Nodup) :
    (members.filter (·.1 = name)).map (·.2) = (members.lookup name).toList := by
  induction members with
  | nil => rfl
  | cons m members ih =>
    obtain ⟨new, distinct⟩ := List.nodup_cons.1 distinct
    by_cases same : m.1 = name
    · have others : members.filter (·.1 = name) = [] :=
        List.filter_eq_nil_iff.2 fun m' member => by
          have apart : m'.1 ≠ m.1 := fun again => new (List.mem_map.2 ⟨m', member, again⟩)
          simpa [← same] using apart
      subst same
      rw [List.filter_cons_of_pos (by simp), others, List.lookup_cons_self]
      rfl
    · rw [List.filter_cons_of_neg (by simpa using same), ih distinct, List.lookup_cons,
        beq_eq_false_iff_ne.2 (Ne.symm same)]

theorem filter_known (known : name ∈ names) :
    (members.filter fun m => names.contains m.1).filter (·.1 = name) = members.filter (·.1 = name) := by
  rw [List.filter_filter]
  refine List.filter_congr fun m _ => ?_
  by_cases same : m.1 = name
  · simp [same, known]
  · simp [same]

theorem lookup_zip (distinct : names.Nodup) (items : List Json) (i : Nat) (h : i < names.length) :
    (names.zip items).lookup names[i] = items[i]? := by
  induction names generalizing items i with
  | nil => exact absurd h (Nat.not_lt_zero i)
  | cons name names ih =>
    obtain ⟨new, distinct⟩ := List.nodup_cons.1 distinct
    cases items with
    | nil => rfl
    | cons item items =>
      cases i with
      | zero => exact List.lookup_cons_self
      | succ i =>
        have small : i < names.length := Nat.lt_of_succ_lt_succ h
        have apart : (names[i] == name) = false :=
          beq_eq_false_iff_ne.2 fun same => new (same ▸ List.getElem_mem _)
        rw [List.zip_cons_cons, List.getElem_cons_succ, List.lookup_cons, apart, List.getElem?_cons_succ]
        exact ih distinct items i small

/-- A record has the fields that its value gives. -/
theorem gives_of_record? (distinct : names.Nodup) (h : j.record? names least = some fields) :
    Gives names least (fun name => fields.lookup name) j := by
  unfold record? at h
  split at h
  next members =>
    dsimp only at h
    split at h
    next once =>
      cases h
      intro name known
      rw [← filter_known known, filter_name once]
    next => cases h
  next items =>
    split at h
    next length =>
      cases h
      exact ⟨length.1, length.2, lookup_zip distinct items⟩
    next => cases h
  next => cases h

/-- A value that gives fields is a record with these fields. -/
theorem record?_of_gives (distinct : names.Nodup) (h : Gives names least given j) :
    ∃ fields, j.record? names least = some fields ∧ ∀ name ∈ names, fields.lookup name = given name := by
  cases j with
  | object members =>
    have once : ((members.filter fun m => names.contains m.1).map (·.1)).Nodup := by
      refine List.nodup_iff_count_le_one.2 fun name => ?_
      by_cases known : name ∈ names
      · calc ((members.filter fun m => names.contains m.1).map (·.1)).count name
            = (((members.filter fun m => names.contains m.1).filter (·.1 = name)).map (·.2)).length := by
              rw [List.count_eq_countP, List.countP_map, List.countP_eq_length_filter, List.length_map]
              rfl
          _ = (given name).toList.length := by rw [filter_known known, h name known]
          _ ≤ 1 := by cases given name <;> simp
      · have unknown : name ∉ (members.filter fun m => names.contains m.1).map (·.1) := by
          intro member
          obtain ⟨m, found, rfl⟩ := List.mem_map.1 member
          exact known (List.contains_iff_mem.1 (List.mem_filter.1 found).2)
        rw [List.count_eq_zero.2 unknown]
        exact Nat.zero_le 1
    refine ⟨members.filter fun m => names.contains m.1, if_pos once, fun name known => ?_⟩
    have found := h name known
    rw [← filter_known known, filter_name once] at found
    simpa using congrArg List.head? found
  | array items =>
    obtain ⟨enough, few, each⟩ := h
    refine ⟨names.zip items, if_pos ⟨enough, few⟩, fun name known => ?_⟩
    obtain ⟨i, small, rfl⟩ := List.getElem_of_mem known
    rw [lookup_zip distinct items i small, each i small]
  | _ => exact h.elim

/-- A value gives each of its fields one thing. -/
theorem Gives.eq {given' : String → Option Json} (distinct : names.Nodup) (h : Gives names least given j)
    (h' : Gives names least given' j) (known : name ∈ names) : given name = given' name := by
  obtain ⟨fields, read, same⟩ := record?_of_gives distinct h
  obtain ⟨fields', read', same'⟩ := record?_of_gives distinct h'
  cases read.symm.trans read'
  rw [← same name known, same' name known]

/-! ## Fields -/

theorem field?_required (read : Json → Option α) {a : α} :
    field? fields name read none = some a ↔ ∃ j, fields.lookup name = some j ∧ read j = some a := by
  rw [field?]
  cases fields.lookup name with
  | none => simp
  | some j => simp

theorem asString?_eq_some : j.asString? = some text ↔ j = .string text := by
  cases j with
  | string s => simp [asString?]
  | _ => simp [asString?]

/-- A text that may be missing, and is empty then. -/
def SaysOr (value : Option Json) (text : String) : Prop := value = none ∧ text = "" ∨ value = some (.string text)

theorem field?_lenient : field? fields name asString? (some "") = some text ↔ SaysOr (fields.lookup name) text := by
  rw [field?, SaysOr]
  cases fields.lookup name with
  | none => simp [eq_comm]
  | some j => simp [asString?_eq_some]

/-- A text that may be missing, or be given as none. -/
def Says? (value : Option Json) (text : Option String) : Prop :=
  text = none ∧ (value = none ∨ value = some .null) ∨ ∃ s, text = some s ∧ value = some (.string s)

theorem nullable?_eq_some {text : Option String} :
    nullable? asString? j = some text ↔ Says? (some j) text := by
  cases j <;> simp [nullable?, Says?, asString?, eq_comm]

theorem field?_nullable {text : Option String} :
    field? fields name (nullable? asString?) (some none) = some text ↔ Says? (fields.lookup name) text := by
  rw [field?]
  cases fields.lookup name with
  | none => simp [Says?, eq_comm]
  | some j => exact nullable?_eq_some

end KeyCustody.Json
