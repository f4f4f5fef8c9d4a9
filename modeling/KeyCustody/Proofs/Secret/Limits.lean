import KeyCustody.Proofs.Violation
import KeyCustody.Secret.Limits
import Mathlib.Data.List.Basic

/-!
# What the limits on secrets come to

A field has no fault exactly if it keeps its limits, and a secret is accepted exactly if all its fields do.
Lengths count characters.
-/

namespace KeyCustody.Secret

/-- No character of the text is reserved. -/
def Unreserved (text : String) : Prop :=
  ∀ ch ∈ text.toList, ch ∉ ['<', '>', ':', '&', '|']

/-- Every field of the record keeps its limits. -/
structure WithinLimits (s : Secret) : Prop where
  name : 2 ≤ s.name.length ∧ s.name.length ≤ 230
  description : ∀ text, s.description = some text → text.length ≤ 230
  tags : s.tags.length ≤ 30 ∧ ∀ tag ∈ s.tags, tag.length ≤ 30 ∧ Unreserved tag
  parameters : s.parameters.size ≤ 30 ∧
    ∀ entry ∈ s.parameters.entries, entry.1.length ≤ 130 ∧ entry.2.length ≤ 130
  notes : s.notes.size ≤ 30 ∧
    ∀ entry ∈ s.notes.entries, entry.1.length ≤ 130 ∧ Unreserved entry.1 ∧ entry.2.length ≤ 130

/-- The record keeps its limits, and so does the material. -/
structure Acceptable (s : Secret) : Prop extends WithinLimits s where
  payload : ∀ material, s.payload = some material → material.length ≤ 10000

section
variable {p : Prop} [Decidable p] {message : String}

theorem fault_eq_nil : (if p then [message] else []) = [] ↔ ¬p := by
  by_cases broken : p
  · simp only [broken, if_true, reduceCtorEq, not_true_eq_false]
  · simp only [broken, if_false, not_false_eq_true]

theorem any_over_eq_false {α : Type} {limit : Nat} {length : α → Nat} {o : Option α} :
    (o.any fun x => limit < length x) = false ↔ ∀ x, o = some x → length x ≤ limit := by
  cases o with
  | none => exact ⟨fun _ _ => nofun, fun _ => rfl⟩
  | some x =>
    rw [Option.any_some, decide_eq_false_iff_not, Nat.not_lt]
    exact ⟨fun short _ same => Option.some.inj same ▸ short, fun short => short x rfl⟩

end

variable {s : Secret} {error : Error} {tag label text : String} {guarded : Bool} {entry : String × String}
  {a : Attributes}

theorem hasReserved_eq_false : hasReserved text = false ↔ Unreserved text := by
  simp only [hasReserved, List.any_eq_false, List.contains_iff_mem]
  exact Iff.rfl

theorem tagFault?_eq_none : tagFault? tag = none ↔ tag.length ≤ 30 ∧ Unreserved tag := by
  rw [← hasReserved_eq_false, tagFault?, fault_else_eq_none, fault_else_eq_none, Nat.not_lt, Bool.not_eq_true,
    and_iff_left rfl]
  exact Iff.rfl

theorem entryFault?_eq_none : entryFault? label guarded entry = none ↔
    entry.1.length ≤ 130 ∧ (guarded = true → Unreserved entry.1) ∧ entry.2.length ≤ 130 := by
  rw [← hasReserved_eq_false, entryFault?, fault_else_eq_none, fault_else_eq_none, fault_else_eq_none, Nat.not_lt,
    Nat.not_lt, Bool.and_eq_true, not_and, Bool.not_eq_true, and_iff_left rfl]
  exact Iff.rfl

theorem attributesFault?_eq_none : attributesFault? label guarded a = none ↔ a.size ≤ 30 ∧
    ∀ entry ∈ a.entries, entry.1.length ≤ 130 ∧ (guarded = true → Unreserved entry.1) ∧ entry.2.length ≤ 130 := by
  rw [attributesFault?, fault_else_eq_none, List.findSome?_eq_none_iff, Nat.not_lt]
  simp only [entryFault?_eq_none]
  exact Iff.rfl

/-! ## The fields -/

theorem nameFaults_eq_nil : s.nameFaults = [] ↔ 2 ≤ s.name.length ∧ s.name.length ≤ 230 := by
  unfold nameFaults
  rw [← ite_not, fault_eq_nil, not_not]
  exact Iff.rfl

theorem descriptionFaults_eq_nil :
    s.descriptionFaults = [] ↔ ∀ text, s.description = some text → text.length ≤ 230 := by
  rw [descriptionFaults, fault_eq_nil, Bool.not_eq_true, any_over_eq_false]
  exact Iff.rfl

theorem tagFaults_eq_nil :
    s.tagFaults = [] ↔ s.tags.length ≤ 30 ∧ ∀ tag ∈ s.tags, tag.length ≤ 30 ∧ Unreserved tag := by
  rw [tagFaults, List.append_eq_nil_iff, fault_eq_nil, Nat.not_lt, Option.toList_eq_nil_iff,
    List.findSome?_eq_none_iff]
  simp only [tagFault?_eq_none]
  exact Iff.rfl

theorem parameterFaults_eq_nil : s.parameterFaults = [] ↔ s.parameters.size ≤ 30 ∧
    ∀ entry ∈ s.parameters.entries, entry.1.length ≤ 130 ∧ entry.2.length ≤ 130 := by
  rw [parameterFaults, Option.toList_eq_nil_iff, attributesFault?_eq_none]
  simp only [Bool.false_eq_true, false_imp_iff, true_and]

theorem noteFaults_eq_nil : s.noteFaults = [] ↔ s.notes.size ≤ 30 ∧
    ∀ entry ∈ s.notes.entries, entry.1.length ≤ 130 ∧ Unreserved entry.1 ∧ entry.2.length ≤ 130 := by
  rw [noteFaults, Option.toList_eq_nil_iff, attributesFault?_eq_none]
  simp only [true_imp_iff]

/-! ## The record -/

theorem violations_eq_nil : s.violations = [] ↔ s.WithinLimits := by
  rw [violations, List.filter_eq_nil_iff]
  simp only [List.forall_mem_cons, List.not_mem_nil, false_imp_iff, implies_true, and_true, Bool.not_eq_true,
    Bool.not_eq_false', List.isEmpty_iff, nameFaults_eq_nil, descriptionFaults_eq_nil, tagFaults_eq_nil,
    parameterFaults_eq_nil, noteFaults_eq_nil]
  constructor
  · rintro ⟨name, description, tags, parameters, notes⟩
    exact ⟨name, description, tags, parameters, notes⟩
  · rintro ⟨name, description, tags, parameters, notes⟩
    exact ⟨name, description, tags, parameters, notes⟩

theorem validate_eq_ok : s.validate = .ok () ↔ s.WithinLimits := by
  rw [← violations_eq_nil, validate, Violation.check, ← List.isEmpty_iff]
  cases s.violations.isEmpty with
  | true => exact ⟨fun _ => rfl, fun _ => rfl⟩
  | false => exact ⟨nofun, nofun⟩

theorem validate_error (h : s.validate = .error error) : ∃ message field, error = .validation message field := by
  unfold validate Violation.check at h
  cases kept : s.violations.isEmpty with
  | true =>
    rw [kept] at h
    cases h
  | false =>
    rw [kept] at h
    cases h
    exact ⟨_, _, rfl⟩

theorem validateNew_invalid (h : s.validate = .error error) : s.validateNew = .error error := by
  unfold validateNew
  rw [h]
  rfl

theorem validateNew_valid (h : s.validate = .ok ()) :
    s.validateNew =
      if s.payload.any (maxPayload < ·.length) then .error (.validation "Payload too long" "payload")
      else .ok () := by
  unfold validateNew
  rw [h]
  rfl

/-- A new secret is accepted exactly if it keeps all limits. -/
theorem validateNew_eq_ok : s.validateNew = .ok () ↔ s.Acceptable := by
  cases valid : s.validate with
  | error e =>
    rw [validateNew_invalid valid]
    refine ⟨nofun, fun kept => ?_⟩
    cases valid.symm.trans (validate_eq_ok.2 kept.toWithinLimits)
  | ok _ =>
    rw [validateNew_valid valid]
    cases long : s.payload.any (maxPayload < ·.length) with
    | true =>
      refine ⟨nofun, fun kept => ?_⟩
      cases long.symm.trans (any_over_eq_false.2 kept.payload)
    | false => exact ⟨fun _ => ⟨validate_eq_ok.1 valid, any_over_eq_false.1 long⟩, fun _ => rfl⟩

instance : Decidable s.Acceptable := decidable_of_iff _ validateNew_eq_ok

/-- A new secret is refused with an error about its fields. -/
theorem validateNew_error (h : s.validateNew = .error error) :
    ∃ message field, error = .validation message field := by
  cases valid : s.validate with
  | error e =>
    rw [validateNew_invalid valid] at h
    cases h
    exact validate_error valid
  | ok _ =>
    rw [validateNew_valid valid] at h
    cases long : s.payload.any (maxPayload < ·.length) with
    | true =>
      rw [long] at h
      cases h
      exact ⟨_, _, rfl⟩
    | false =>
      rw [long] at h
      cases h

end KeyCustody.Secret
