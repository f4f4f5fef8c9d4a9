import KeyCustody.Proofs.Path

/-!
# Pools of programs

Any number of programs on one state, in any order of their calls, up to any moment.
-/

namespace KeyCustody.Program

variable {Call : Type} {Answer : Call → Type} {α σ : Type}

/-- The calls made by a moment, each with the place of the program that callsOf it, what is left of every
program, and the state. -/
inductive Pooled (w : World Call Answer σ) :
    List (Program Call Answer α) → σ → List (Nat × Event Call Answer) → List (Program Call Answer α) →
      σ → Prop
  | here (ps : List (Program Call Answer α)) (s : σ) : Pooled w ps s [] ps s
  | turn {ps ps' : List (Program Call Answer α)} {i : Nat} {c : Call}
      {next : Answer c → Program Call Answer α} {x : Answer c} {s s₁ s' : σ}
      {t : List (Nat × Event Call Answer)} (waits : ps[i]? = some (.call c next))
      (answered : w c s x s₁) (rest : Pooled w (ps.set i (next x)) s₁ t ps' s') :
      Pooled w ps s ((i, ⟨c, x⟩) :: t) ps' s'

variable {ps ps' : List (Program Call Answer α)} {p : Program Call Answer α} {i : Nat}
  {t : List (Nat × Event Call Answer)}

/-- The calls of all programs lead the state along one path. -/
theorem Pooled.path {w : World Call Answer σ} {s s' : σ} (h : Pooled w ps s t ps' s') :
    Path w s (t.map (·.2)) s' := by
  induction h with
  | here _ s => exact .nil s
  | turn _ answered _ ih => exact .cons answered ih

/-- Every program makes its own calls. -/
theorem Pooled.begins {w : World Call Answer σ} {s s' : σ} (h : Pooled w ps s t ps' s')
    (there : ps[i]? = some p) : ∃ p', ps'[i]? = some p' ∧ Begins p (callsOf i t) p' := by
  induction h generalizing p with
  | here => exact ⟨p, there, .here p⟩
  | @turn ps _ j c next x _ _ _ t waits _ _ ih =>
    by_cases own : j = i
    · subst own
      obtain rfl := Option.some.inj (there.symm.trans waits)
      have left : (ps.set j (next x))[j]? = some (next x) :=
        List.getElem?_set_self (List.getElem?_eq_some_iff.1 there).1
      obtain ⟨p', stays, begun⟩ := ih left
      refine ⟨p', stays, ?_⟩
      have first : callsOf j ((j, ⟨c, x⟩) :: t) = ⟨c, x⟩ :: callsOf j t := by simp [callsOf]
      rw [first]
      exact .call begun
    · obtain ⟨p', stays, begun⟩ := ih ((List.getElem?_set_ne own).trans there)
      have other : callsOf i ((j, ⟨c, x⟩) :: t) = callsOf i t := by simp [callsOf, own]
      exact ⟨p', stays, other ▸ begun⟩

theorem getElem?_eq_done {a : α} (h : ps[i]?.bind value? = some a) : ps[i]? = some (.done a) := by
  obtain ⟨p, there, ended⟩ := Option.bind_eq_some_iff.1 h
  rw [there, eq_done_of_value? ended]

/-! ## Turns as scheduled -/

/-- Programs take turns as scheduled, until the schedule ends; one that is done, or not there, is passed
over. -/
def takeTurns (answer : σ → (c : Call) → Answer c × σ) :
    List Nat → List (Program Call Answer α) → σ →
      List (Nat × Event Call Answer) × List (Program Call Answer α) × σ
  | [], ps, s => ([], ps, s)
  | i :: schedule, ps, s =>
    match ps[i]? with
    | some (.call c next) =>
      let rest := takeTurns answer schedule (ps.set i (next (answer s c).1)) (answer s c).2
      ((i, ⟨c, (answer s c).1⟩) :: rest.1, rest.2)
    | _ => takeTurns answer schedule ps s

theorem Pooled.of_schedule {answer : σ → (c : Call) → Answer c × σ} {w : World Call Answer σ}
    (allowed : ∀ s c, w c s (answer s c).1 (answer s c).2) (schedule : List Nat)
    (ps : List (Program Call Answer α)) (s : σ) :
    Pooled w ps s (takeTurns answer schedule ps s).1 (takeTurns answer schedule ps s).2.1
      (takeTurns answer schedule ps s).2.2 := by
  induction schedule generalizing ps s with
  | nil => exact .here ps s
  | cons i schedule ih =>
    unfold takeTurns
    split
    · rename_i c next waits
      exact .turn waits (allowed s c) (ih _ _)
    · exact ih ps s

end KeyCustody.Program
