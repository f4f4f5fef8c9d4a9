import KeyCustody.Proofs.Run
import Mathlib.Data.List.TakeWhile

/-!
# Counters and their tally

A tally keeps one number a counter, since no two counters have the same key. What a program adds to the
numbers is what it counts.
-/

namespace KeyCustody

open Program

namespace Counter

/-! ## Keys -/

theorem split_first {α : Type} [DecidableEq α] {a : α} {l l' r r' : List α} (none : a ∉ l) (none' : a ∉ l')
    (h : l ++ a :: r = l' ++ a :: r') : l = l' ∧ r = r' := by
  have before : ∀ {l r : List α}, a ∉ l → (l ++ a :: r).takeWhile (· ≠ a) = l := by
    intro l r none
    have other : ∀ b ∈ l, decide (b ≠ a) = true := fun b member => by
      simpa using fun same : b = a => none (same ▸ member)
    rw [List.takeWhile_append_of_pos other]
    simp
  have same : l = l' := by rw [← before none (r := r), h, before none']
  subst same
  exact ⟨rfl, List.tail_eq_of_cons_eq (List.append_cancel_left h)⟩

theorem series_plain (c : Counter) : '\x7b' ∉ c.series.toList := by
  cases c <;> simp [series]

/-- What stands between the brackets of a key. -/
def body (c : Counter) : String := ",".intercalate (c.labels.map fun l => l.1 ++ "=" ++ l.2)

theorem of_key {c c' : Counter} (h : c.key = c'.key) : c.series = c'.series ∧ c.body = c'.body := by
  have parts : ∀ c : Counter, c.key.toList = c.series.toList ++ '\x7b' :: (c.body.toList ++ ['\x7d']) :=
    fun c => by simp [key, body]
  have same := congrArg String.toList h
  rw [parts, parts] at same
  obtain ⟨series, labels⟩ := split_first c.series_plain c'.series_plain same
  exact ⟨String.ext series, String.ext (List.append_cancel_right labels)⟩

theorem body_operation {name : String} {succeeded : Bool} : (operation name succeeded).body =
    "operation=" ++ name ++ ",status=" ++ if succeeded then "success" else "error" := by
  change "operation" ++ "=" ++ name ++ "," ++ ("status" ++ "=" ++ if succeeded then "success" else "error") = _
  simp [String.ext_iff]

theorem body_transition {source target : Phase} : (transition source target).body.toList =
    ("from=".toList ++ source.name.toList) ++ ',' :: ("to=".toList ++ target.name.toList) := by
  change ("from" ++ "=" ++ source.name ++ "," ++ ("to" ++ "=" ++ target.name)).toList = _
  simp

theorem operation_of_body {name name' : String} {succeeded succeeded' : Bool}
    (h : (operation name succeeded).body = (operation name' succeeded').body) :
    operation name succeeded = operation name' succeeded' := by
  -- A name may hold commas itself, so the end is told by the last letter of the body.
  have last : ∀ name succeeded, (operation name succeeded).body.toList.getLast? =
      some (if succeeded then 's' else 'r') := by
    intro name succeeded
    rw [body_operation, String.toList_append, List.getLast?_append]
    cases succeeded <;> rfl
  have ended := (last name succeeded).symm.trans ((congrArg (·.toList.getLast?) h).trans (last name' succeeded'))
  obtain rfl : succeeded = succeeded' := by
    cases succeeded <;> cases succeeded' <;> first | rfl | cases ended
  rw [body_operation, body_operation] at h
  simpa [String.ext_iff] using h

theorem transition_of_body {source target source' target' : Phase}
    (h : (transition source target).body = (transition source' target').body) :
    transition source target = transition source' target' := by
  have named : Function.Injective Phase.name := fun p p' same =>
    Option.some.inj (by rw [← Phase.ofName?_name, same, Phase.ofName?_name])
  have plain : ∀ p : Phase, ',' ∉ "from=".toList ++ p.name.toList := by
    intro p
    cases p <;> decide
  have same := congrArg String.toList h
  rw [body_transition, body_transition] at same
  obtain ⟨before, after⟩ := split_first (plain source) (plain source') same
  rw [named (String.ext (List.append_cancel_left before)), named (String.ext (List.append_cancel_left after))]

theorem key_injective : Function.Injective key := by
  intro c c' h
  obtain ⟨series, body⟩ := of_key h
  have named : ∀ {name name' : String}, "operation=" ++ name = "operation=" ++ name' → name = name' :=
    fun same => by simpa [String.ext_iff] using same
  cases c with
  | operation name succeeded =>
    cases c' with
    | operation name' succeeded' => exact operation_of_body body
    | _ => simp [Counter.series] at series
  | rollback name =>
    cases c' with
    | rollback name' => exact congrArg rollback (named body)
    | _ => simp [Counter.series] at series
  | rollbackFailure name =>
    cases c' with
    | rollbackFailure name' => exact congrArg rollbackFailure (named body)
    | _ => simp [Counter.series] at series
  | retriesExhausted name =>
    cases c' with
    | retriesExhausted name' => exact congrArg retriesExhausted (named body)
    | _ => simp [Counter.series] at series
  | transition source target =>
    cases c' with
    | transition source' target' => exact transition_of_body body
    | _ => simp [Counter.series] at series
  | orphanedOrder =>
    cases c' with
    | orphanedOrder => rfl
    | _ => simp [Counter.series] at series

end Counter

namespace Tally

/-! ## Numbers -/

def number (t : Tally) (c : Counter) : Nat := (t.lookup c.key).getD 0

@[simp] theorem number_nil {c : Counter} : number [] c = 0 := rfl

theorem number_cons_self {n : Nat} {t : Tally} {c : Counter} : number ((c.key, n) :: t) c = n := by
  simp [number]

theorem number_cons_other {key : String} {n : Nat} {t : Tally} {c : Counter} (other : key ≠ c.key) :
    number ((key, n) :: t) c = t.number c := by
  have skipped : (c.key == key) = false := beq_eq_false_iff_ne.2 (Ne.symm other)
  unfold number
  rw [List.lookup_cons, skipped]

theorem number_add {t : Tally} {c c' : Counter} :
    (t.add c).number c' = t.number c' + if c = c' then 1 else 0 := by
  by_cases same : c = c'
  · subst same
    rw [if_pos rfl]
    induction t with
    | nil => exact number_cons_self
    | cons entry t ih =>
      obtain ⟨key, n⟩ := entry
      by_cases own : key = c.key
      · subst own
        rw [add, if_pos rfl, number_cons_self, number_cons_self]
      · rw [add, if_neg own, number_cons_other own, number_cons_other own, ih]
  · have different : c.key ≠ c'.key := fun keys => same (Counter.key_injective keys)
    rw [if_neg same, Nat.add_zero]
    induction t with
    | nil => exact number_cons_other different
    | cons entry t ih =>
      obtain ⟨key, n⟩ := entry
      by_cases own : key = c.key
      · subst own
        rw [add, if_pos rfl, number_cons_other different, number_cons_other different]
      · rw [add, if_neg own]
        by_cases asked : key = c'.key
        · subst asked
          rw [number_cons_self, number_cons_self]
        · rw [number_cons_other asked, number_cons_other asked, ih]

/-- The counters keep a tally. Any other call leaves it and is answered with anything. -/
def world : World Tally
  | .count c, t, _, t' => t' = t.add c
  | _, t, _, t' => t' = t

/-- The counters keep the tally, and other calls are answered alike every time. -/
def answer (others : (c : Call) → c.Answer) (t : Tally) : (c : Call) → c.Answer × Tally
  | .count c => ((), t.add c)
  | c => (others c, t)

theorem world_answer (others : (c : Call) → c.Answer) (t : Tally) (c : Call) :
    world c t (t.answer others c).1 (t.answer others c).2 := by
  cases c <;> rfl

end Tally

def Event.counter? : Event → Option Counter
  | ⟨.count c, _⟩ => some c
  | _ => none

/-- The counters that are incremented in a trace. -/
def counts (t : Trace) : List Counter := t.filterMap Event.counter?

variable {t t' : Trace} {c : Counter}

@[simp] theorem counts_nil : counts [] = [] := rfl

@[simp] theorem counts_append : counts (t ++ t') = counts t ++ counts t' := List.filterMap_append

theorem counts_count {x : (Call.count c).Answer} : counts (⟨.count c, x⟩ :: t) = c :: counts t := rfl

theorem counts_other {v : Event} (other : v.counter? = none) : counts (v :: t) = counts t :=
  List.filterMap_cons_none other

/-- A run adds to each number what it counts. -/
theorem Tally.number_of_run {α : Type} {p : Action α} {a : α} {n n' : Tally} (h : Run Tally.world p n t a n') :
    n'.number c = n.number c + (counts t).count c := by
  induction h with
  | done => rfl
  | @call called _ _ _ _ _ _ _ answered _ ih =>
    rw [ih]
    cases called with
    | count c₁ =>
      obtain rfl : _ = _ := answered
      rw [Tally.number_add, counts_count, List.count_cons, Nat.add_assoc, Nat.add_comm (ite _ _ _)]
      simp only [beq_iff_eq]
    | _ =>
      obtain rfl : _ = _ := answered
      rfl

end KeyCustody
