import KeyCustody.Proofs.Retry
import KeyCustody.Proofs.World

/-!
# Runs in which one call fails

A state answers the calls of a program, all but one, which fails without effect. Up to that call the
program goes as if nothing failed, and from there on as if nothing had to fail any more.
-/

namespace KeyCustody

deriving instance DecidableEq for Call

/-- An answer to a call that can fail, where it did. -/
def Call.Fails : (c : Call) → c.Answer → Prop
  | .addEntry .., x | .updateEntry .., x | .deleteEntry .., x | .changeRecord .., x => Failed x
  | .deleteSecret .., x | .deleteOrder .., x => Failed x
  | .getEntry .., x | .getRecord .., x | .listRecords .., x | .totalRecords .., x => Failed x
  | .createRecord .., x | .deleteRecord .., x => Failed x
  | .postSecret .., x | .postOrder .., x | .checkOrder .., x | .getPayload .., x => Failed x
  | _, _ => False

instance (c : Call) (x : c.Answer) : Decidable (c.Fails x) :=
  match c, x with
  | .addEntry .., x | .updateEntry .., x | .deleteEntry .., x | .changeRecord .., x => Failed.decidable x
  | .deleteSecret .., x | .deleteOrder .., x => Failed.decidable x
  | .getEntry .., x | .getRecord .., x | .listRecords .., x | .totalRecords .., x => Failed.decidable x
  | .createRecord .., x | .deleteRecord .., x => Failed.decidable x
  | .postSecret .., x | .postOrder .., x | .checkOrder .., x | .getPayload .., x => Failed.decidable x
  | .putMaterial .., _ | .findMaterial _, _ | .dropMaterial _, _ | .now, _ | .count _, _ => isFalse id
  | .drawIdentifier, _ | .drawReference, _ | .drawBytes _, _ => isFalse id

/-- No call of a trace has failed. -/
def Unfailed (t : Trace) : Prop := ∀ v ∈ t, ¬ v.call.Fails v.answer

theorem unfailed_append {t t' : Trace} : Unfailed (t ++ t') ↔ Unfailed t ∧ Unfailed t' := List.forall_mem_append

variable {α β σ : Type} {answer : σ → (c : Call) → c.Answer × σ} {s s' : σ} {c : Call}

/-- How a program ends where one of its calls, `c`, fails without effect, and a state answers the rest. -/
inductive FailsOnce (answer : σ → (c : Call) → c.Answer × σ) :
    Action α → σ → Call → α → σ → Prop
  | now {c : Call} {next : c.Answer → Action α} {s s' : σ} {x : c.Answer} {a : α}
      (failed : c.Fails x) (ended : (next x).run answer s = (a, s')) :
      FailsOnce answer (.call c next) s c a s'
  | later {c c' : Call} {next : c.Answer → Action α} {s s' : σ} {a : α}
      (rest : FailsOnce answer (next (answer s c).1) (answer s c).2 c' a s') :
      FailsOnce answer (.call c next) s c' a s'

/-- The call that a program makes after `n` others. -/
def Action.callAt (answer : σ → (c : Call) → c.Answer × σ) : Nat → Action α → σ → Option Call
  | _, .done _, _ => none
  | 0, .call c _, _ => some c
  | n + 1, .call c next, s => callAt answer n (next (answer s c).1) (answer s c).2

/-- Runs a program with the call after `n` others refused. -/
def Action.runRefusing (answer : σ → (c : Call) → c.Answer × σ) (error : Error) :
    Nat → Action α → σ → α × σ
  | _, .done a, s => (a, s)
  | 0, .call c next, s => (next (c.refused error)).run answer s
  | n + 1, .call c next, s => runRefusing answer error n (next (answer s c).1) (answer s c).2

namespace FailsOnce

open Program

theorem of_refusing {error : Error} {n : Nat} {p : Action α} (made : Action.callAt answer n p s = some c)
    (fails : c.Fails (c.refused error)) :
    FailsOnce answer p s c (Action.runRefusing answer error n p s).1
      (Action.runRefusing answer error n p s).2 := by
  induction p generalizing s n with
  | done a =>
    unfold Action.callAt at made
    cases made
  | call c₀ next ih =>
    cases n with
    | zero =>
      obtain rfl := Option.some.inj made
      exact .now fails rfl
    | succ n => exact .later (ih _ made)

theorem make {c₀ : Call} {x : c₀.Answer} (h : FailsOnce answer (Action.make c₀) s c x s') :
    c₀.Fails x ∧ c = c₀ ∧ s' = s := by
  cases h with
  | now failed ended =>
    obtain ⟨rfl, rfl⟩ := Prod.mk.inj ended
    exact ⟨failed, rfl, rfl⟩
  | later rest => cases rest

/-- The call that fails is in the first part or in the second. -/
theorem bind {p : Action α} {f : α → Action β} {b : β} (h : FailsOnce answer (p >>= f) s c b s') :
    (∃ a s₁, FailsOnce answer p s c a s₁ ∧ (f a).run answer s₁ = (b, s')) ∨
      FailsOnce answer (f (p.run answer s).1) (p.run answer s).2 c b s' := by
  induction p generalizing s with
  | done a => exact .inr h
  | call c₀ next ih =>
    rw [call_bind] at h
    cases h with
    | now failed ended =>
      rw [run_bind] at ended
      exact .inl ⟨_, _, .now failed rfl, ended⟩
    | later rest =>
      obtain ⟨a, s₁, first, ended⟩ | second := ih _ rest
      · exact .inl ⟨a, s₁, .later first, ended⟩
      · exact .inr second

section
variable {p : ExceptT Error Action α} {f : α → ExceptT Error Action β} {a : α} {r : Except Error β} {s₁ : σ}

/-- The first part would succeed. If the call that fails is part of it, it may fail with that call, or
succeed all the same. -/
theorem bindExcept (h : FailsOnce answer (p >>= f).run s c r s')
    (well : p.run.run answer s = (.ok a, s₁)) :
    (∃ e, r = .error e ∧ FailsOnce answer p.run s c (.error e) s') ∨
      (∃ a' s₂, FailsOnce answer p.run s c (.ok a') s₂ ∧ (f a').run.run answer s₂ = (r, s')) ∨
      FailsOnce answer (f a).run s₁ c r s' := by
  rw [ExceptT.run_bind] at h
  obtain ⟨x, s₂, first, ended⟩ | second := bind h
  · cases x with
    | ok a' => exact .inr (.inl ⟨a', s₂, first, ended⟩)
    | error e =>
      obtain ⟨rfl, rfl⟩ := Prod.mk.inj ended
      exact .inl ⟨e, rfl, first⟩
  · rw [well] at second
    exact .inr (.inr second)

/-- The first part would succeed, and fails with any call that is part of it. -/
theorem bindFailing {Q : σ → Prop} (h : FailsOnce answer (p >>= f).run s c r s')
    (well : p.run.run answer s = (.ok a, s₁))
    (fails : ∀ y s₂, FailsOnce answer p.run s c y s₂ → Failed y ∧ Q s₂) :
    Failed r ∧ Q s' ∨ FailsOnce answer (f a).run s₁ c r s' := by
  obtain ⟨e, rfl, first⟩ | ⟨_, _, first, -⟩ | second := h.bindExcept well
  · exact .inl ⟨⟨e, rfl⟩, (fails _ _ first).2⟩
  · obtain ⟨⟨_, same⟩, -⟩ := fails _ _ first
    cases same
  · exact .inr second

end

theorem bindLift {p : Action α} {f : α → ExceptT Error Action β} {r : Except Error β}
    (h : FailsOnce answer (ExceptT.lift p >>= f).run s c r s') :
    (∃ a s₁, FailsOnce answer p s c a s₁ ∧ (f a).run.run answer s₁ = (r, s')) ∨
      FailsOnce answer (f (p.run answer s).1).run (p.run answer s).2 c r s' := by
  rw [ExceptT.run_bind_lift] at h
  exact bind h

section
variable {c₀ : Call} {exhausted : Action Unit} {operation : String} {attempt : ExceptT Error Action α}
  {x r : Except Error α} {s₁ : σ}

/-- Attempts at a call whose outcome would be final. They end with that outcome all the same, or with the
failure if that is final too. -/
theorem attempts (h : FailsOnce answer (Retry.attempts exhausted operation attempt).run s c r s')
    (single : ∀ y s', FailsOnce answer attempt.run s c y s' → Failed y ∧ c = c₀ ∧ s' = s)
    (well : attempt.run.run answer s = (x, s₁)) (final : ∀ e, x = .error e → e.isRetryable = false) :
    c = c₀ ∧ ((r, s') = (x, s₁) ∨ Failed r ∧ s' = s) := by
  unfold Retry.attempts Retry.limit Retry.attemptsLeft at h
  obtain ⟨y, s₂, first, ended⟩ | second := bind h
  · obtain ⟨⟨e, rfl⟩, rfl, rfl⟩ := single y s₂ first
    refine ⟨rfl, ?_⟩
    by_cases again : e.isRetryable = true
    · simp only [again, if_true] at ended
      rw [Retry.eval_attemptsLeft final well] at ended
      exact .inl ended.symm
    · simp only [again, Bool.false_eq_true, if_false] at ended
      obtain ⟨rfl, rfl⟩ := Prod.mk.inj ended
      exact .inr ⟨⟨e, rfl⟩, rfl⟩
  · rw [well] at second
    cases x with
    | ok a => cases second
    | error e =>
      simp only [final e rfl, Bool.false_eq_true, if_false] at second
      cases second

theorem attempts_reading (h : FailsOnce answer (Retry.attempts exhausted operation attempt).run s c r s')
    (single : ∀ y s', FailsOnce answer attempt.run s c y s' → Failed y ∧ c = c₀ ∧ s' = s)
    (well : attempt.run.run answer s = (x, s)) (final : ∀ e, x = .error e → e.isRetryable = false) :
    c = c₀ ∧ s' = s ∧ (r = x ∨ Failed r) := by
  obtain ⟨same, outcome | ⟨failed, kept⟩⟩ := h.attempts single well final
  · obtain ⟨rfl, rfl⟩ := Prod.mk.inj outcome
    exact ⟨same, rfl, .inl rfl⟩
  · exact ⟨same, kept, .inr failed⟩

end

end FailsOnce

end KeyCustody
