import KeyCustody.Violation
import Mathlib.Data.List.Nodup
import Mathlib.Data.String.Basic

/-!
# Violations in order

However violations are found, they are reported by their fields in alphabetical order: where each field is found
once, the report does not depend on the order in which they were found.
-/

namespace KeyCustody

/-- There is no first fault if there is none. -/
theorem fault_else_eq_none {α : Type} {p : Prop} [Decidable p] {fault : α} {rest : Option α} :
    (if p then some fault else rest) = none ↔ ¬p ∧ rest = none := by
  by_cases broken : p
  · simp only [broken, if_true, reduceCtorEq, not_true_eq_false, false_and]
  · simp only [broken, if_false, not_false_eq_true, true_and]

namespace Violation

variable {found found' : List Violation} {v : Violation} {field : String}

theorem inOrder_perm (found : List Violation) : (inOrder found).Perm found :=
  List.mergeSort_perm found _

theorem mem_inOrder : v ∈ inOrder found ↔ v ∈ found :=
  (inOrder_perm found).mem_iff

theorem inOrder_sorted (found : List Violation) :
    ((inOrder found).map (·.field)).Pairwise (· ≤ ·) := by
  rw [List.pairwise_map]
  refine (List.pairwise_mergeSort ?_ ?_ found).imp fun before => of_decide_eq_true before
  · intro u v w first rest
    exact decide_eq_true (le_trans (of_decide_eq_true first) (of_decide_eq_true rest))
  · intro u v
    simpa only [Bool.or_eq_true, decide_eq_true_eq] using le_total u.field v.field

/-- Fields that are found once stand once in the report. -/
theorem inOrder_strict (once : (found.map (·.field)).Nodup) :
    ((inOrder found).map (·.field)).Pairwise (· < ·) := by
  have apart : ((inOrder found).map (·.field)).Nodup := ((inOrder_perm found).map _).nodup_iff.2 once
  exact (inOrder_sorted found).imp₂ (fun _ _ before different => lt_of_le_of_ne before different) apart

/-- Two violations of one field are the same where each field is found once. -/
theorem inOrder_congr (once : (found.map (·.field)).Nodup) (same : found.Perm found') :
    inOrder found = inOrder found' := by
  have perm : (inOrder found).Perm (inOrder found') :=
    ((inOrder_perm found).trans same).trans (inOrder_perm found').symm
  have sorted : ∀ l, ((inOrder l).map (·.field)).Pairwise (· ≤ ·) → (inOrder l).Pairwise (·.field ≤ ·.field) :=
    fun l h => List.pairwise_map.1 h
  refine perm.eq_of_pairwise ?_ (sorted _ (inOrder_sorted found)) (sorted _ (inOrder_sorted found'))
  intro v w member member' before after
  exact List.inj_on_of_nodup_map once (mem_inOrder.1 member) (same.mem_iff.2 (mem_inOrder.1 member'))
    (le_antisymm before after)

/-- The one field that is named: there is no other among those found. -/
def sole (found : List Violation) : Option String :=
  match found with
  | [v] => some v.field
  | _ => none

theorem report_eq (found : List Violation) : report found =
    .validation ("Validation failed: " ++ "; ".intercalate ((inOrder found).map text)) (sole found) :=
  rfl

theorem sole_congr (same : found.Perm found') : sole found = sole found' := by
  match found, same with
  | [], same => rw [List.nil_perm.1 same]
  | [v], same => rw [List.singleton_perm.1 same]
  | _ :: _ :: _, same =>
    match found', same.length_eq with
    | _ :: _ :: _, _ => rfl

theorem report_congr (once : (found.map (·.field)).Nodup) (same : found.Perm found') :
    report found = report found' := by
  rw [report_eq, report_eq, inOrder_congr once same, sole_congr same]

theorem sole_eq_some (once : (found.map (·.field)).Nodup) :
    sole found = some field ↔ ∀ other, other ∈ found.map (·.field) ↔ other = field := by
  match found, once with
  | [], _ => exact ⟨nofun, fun only => absurd ((only field).2 rfl) List.not_mem_nil⟩
  | [v], _ =>
    simp only [sole, Option.some.injEq, List.map_cons, List.map_nil, List.mem_singleton]
    exact ⟨fun own other => own ▸ Iff.rfl, fun only => (only v.field).1 rfl⟩
  | v :: w :: rest, once =>
    refine ⟨nofun, fun only => ?_⟩
    have first := (only v.field).1 (by simp)
    have second := (only w.field).1 (by simp)
    simp [first, second] at once

theorem check_eq_error {error : Error} : check found = .error error ↔ found ≠ [] ∧ error = report found := by
  unfold check
  cases found with
  | nil => exact ⟨nofun, fun h => absurd rfl h.1⟩
  | cons v rest =>
    exact ⟨fun h => ⟨nofun, (Except.error.inj h).symm⟩, fun h => congrArg Except.error h.2.symm⟩

end Violation

end KeyCustody
