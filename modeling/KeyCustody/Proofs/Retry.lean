import KeyCustody.Proofs.Run

/-!
# Runs of repeated attempts

Attempts end with the first that succeeds or fails for good. What the attempts keep to, the repetition
does.
-/

namespace KeyCustody.Retry

open Program

variable {σ α : Type} {w : World σ} {s s' : σ} {t : Trace} {operation : String}
  {exhausted : Action Unit} {attempt : ExceptT Error Action α} {r : Except Error α}

theorem respects_attemptsLeft {R : σ → Trace → σ → Prop} (chains : Chains R)
    (counted : Respects w R exhausted) (tried : Respects w R attempt.run) (left : Nat)
    (last : Option Error) :
    Respects w R (attemptsLeft exhausted operation attempt left last).run := by
  induction left generalizing last with
  | zero => exact .bind chains counted fun _ => .pure chains _
  | succ left ih =>
    refine .bind chains tried fun x => ?_
    cases x with
    | ok a => exact .pure chains _
    | error error =>
      by_cases again : error.isRetryable = true
      · simp only [again, if_true]
        exact ih _
      · simp only [again, Bool.false_eq_true, if_false]
        exact .pure chains _

theorem respects_attempts {R : σ → Trace → σ → Prop} (chains : Chains R)
    (counted : Respects w R exhausted) (tried : Respects w R attempt.run) :
    Respects w R (attempts exhausted operation attempt).run :=
  respects_attemptsLeft chains counted tried _ _

/-- An attempt decides, or it failed in a way that may pass and the rest of them decide. -/
theorem run_attemptsLeft_succ {left : Nat} {last : Option Error}
    (h : Run w (attemptsLeft exhausted operation attempt (left + 1) last).run s t r s') :
    ∃ t₁ x s₁ t₂, t = t₁ ++ t₂ ∧ Run w attempt.run s t₁ x s₁ ∧
      ((∃ e, x = .error e ∧ e.isRetryable = true ∧
          Run w (attemptsLeft exhausted operation attempt left (some e)).run s₁ t₂ r s') ∨
        r = x ∧ t₂ = [] ∧ s' = s₁) := by
  unfold attemptsLeft at h
  obtain ⟨t₁, x, s₁, t₂, rfl, tried, ended⟩ := Run.bind_iff.1 h
  refine ⟨t₁, x, s₁, t₂, rfl, tried, ?_⟩
  cases x with
  | ok a =>
    obtain ⟨rfl, rfl, rfl⟩ := Run.pure_iff.1 ended
    exact .inr ⟨rfl, rfl, rfl⟩
  | error error =>
    by_cases again : error.isRetryable = true
    · simp only [again, if_true] at ended
      exact .inl ⟨error, rfl, again, ended⟩
    · simp only [again, Bool.false_eq_true, if_false] at ended
      obtain ⟨rfl, rfl, rfl⟩ := Run.pure_iff.1 ended
      exact .inr ⟨rfl, rfl, rfl⟩

theorem run_attempts (h : Run w (attempts exhausted operation attempt).run s t r s') :
    ∃ t₁ x s₁ t₂, t = t₁ ++ t₂ ∧ Run w attempt.run s t₁ x s₁ ∧
      ((∃ e, x = .error e ∧ e.isRetryable = true ∧
          Run w (attemptsLeft exhausted operation attempt 3 (some e)).run s₁ t₂ r s') ∨
        r = x ∧ t₂ = [] ∧ s' = s₁) :=
  run_attemptsLeft_succ h

/-- How up to `left` attempts at a call go: they fail in ways that may pass, up to the one that decides; or
all of them do, which is counted. -/
inductive Tries (event : Except Error α → Event) (counter : Counter) (left : Nat) :
    Trace → Except Error α → Prop
  | decided {failed : List Error} {x : Except Error α} (again : ∀ e ∈ failed, e.isRetryable = true)
      (within : failed.length < left) (final : ∀ e, x = .error e → e.isRetryable = false) :
      Tries event counter left ((failed.map fun e => event (.error e)) ++ [event x]) x
  | exhausted {failed : List Error} {last : Error} (again : ∀ e ∈ failed, e.isRetryable = true)
      (lastAgain : last.isRetryable = true) (all : failed.length + 1 = left) :
      Tries event counter left
        ((failed.map fun e => event (.error e)) ++ [event (.error last), ⟨.count counter, ()⟩]) (.error last)

theorem Tries.before {event : Except Error α → Event} {counter : Counter} {left : Nat} {e : Error}
    (again : e.isRetryable = true) (h : Tries event counter left t r) :
    Tries event counter (left + 1) (event (.error e) :: t) r := by
  cases h with
  | @decided failed _ others within final =>
    exact @Tries.decided _ event counter _ (e :: failed) _ (List.forall_mem_cons.2 ⟨again, others⟩)
      (Nat.succ_lt_succ within) final
  | @exhausted failed _ others lastAgain all =>
    exact @Tries.exhausted _ event counter _ (e :: failed) _ (List.forall_mem_cons.2 ⟨again, others⟩) lastAgain
      (congrArg (· + 1) all)

theorem Tries.called {event : Except Error α → Event} {counter : Counter} {left : Nat}
    (h : Tries event counter left t r) : event r ∈ t := by
  cases h with
  | decided | exhausted => exact List.mem_append_right _ List.mem_cons_self

theorem Tries.calls {event : Except Error α → Event} {counter : Counter} {left : Nat}
    (h : Tries event counter left t r) : ∀ v ∈ t, (∃ x, v = event x) ∨ v = ⟨.count counter, ()⟩ := by
  have failing : ∀ failed : List Error, ∀ v ∈ failed.map fun e => event (.error e),
      (∃ x, v = event x) ∨ v = ⟨.count counter, ()⟩ :=
    fun failed => List.forall_mem_map.2 fun e _ => .inl ⟨.error e, rfl⟩
  cases h with
  | decided => exact List.forall_mem_append.2 ⟨failing _, List.forall_mem_singleton.2 (.inl ⟨_, rfl⟩)⟩
  | exhausted =>
    refine List.forall_mem_append.2 ⟨failing _, List.forall_mem_cons.2 ⟨.inl ⟨_, rfl⟩, ?_⟩⟩
    exact List.forall_mem_singleton.2 (.inr rfl)

theorem Tries.countP_le {event : Except Error α → Event} {counter : Counter} {left : Nat}
    {p : Event → Bool} (uncounted : p ⟨.count counter, ()⟩ = false) (h : Tries event counter left t r) :
    t.countP p ≤ left := by
  have failing : ∀ failed : List Error,
      (failed.map fun e => event (.error e)).countP p ≤ failed.length := by
    intro failed
    rw [← List.length_map fun e => event (.error e)]
    exact List.countP_le_length
  have once : ∀ x, [event x].countP p ≤ 1 := fun _ => List.countP_le_length
  cases h with
  | @decided failed _ _ within =>
    rw [List.countP_append]
    exact Nat.le_trans (Nat.add_le_add (failing failed) (once r)) within
  | @exhausted failed last _ _ all =>
    have uncounted : [event (.error last), ⟨.count counter, ()⟩].countP p = [event (.error last)].countP p := by
      simp only [List.countP_cons, uncounted, List.countP_nil, Bool.false_eq_true, if_false, Nat.zero_add]
    rw [List.countP_append, uncounted, ← all]
    exact Nat.add_le_add (failing failed) (once (.error last))

/-- A call decides, or it failed in a way that may pass and the rest of the attempts decide. -/
theorem run_attemptsLeft_call {event : Except Error α → Event} {left : Nat} {last : Option Error}
    (once : ∀ s t x s', Run w attempt.run s t x s' → t = [event x])
    (h : Run w (attemptsLeft exhausted operation attempt (left + 1) last).run s t r s') :
    (t = [event r] ∧ ∀ e, r = .error e → e.isRetryable = false) ∨
      ∃ error s₁ t₂, t = event (.error error) :: t₂ ∧ error.isRetryable = true ∧
        Run w (attemptsLeft exhausted operation attempt left (some error)).run s₁ t₂ r s' := by
  unfold attemptsLeft at h
  obtain ⟨_, x, s₁, t₂, rfl, tried, ended⟩ := Run.bind_iff.1 h
  obtain rfl := once _ _ _ _ tried
  cases x with
  | ok _ =>
    obtain ⟨rfl, rfl, -⟩ := Run.pure_iff.1 ended
    exact .inl ⟨rfl, nofun⟩
  | error error =>
    by_cases again : error.isRetryable = true
    · simp only [again, if_true] at ended
      exact .inr ⟨error, s₁, t₂, rfl, again, ended⟩
    · simp only [again, Bool.false_eq_true, if_false] at ended
      obtain ⟨rfl, rfl, -⟩ := Run.pure_iff.1 ended
      refine .inl ⟨rfl, ?_⟩
      rintro _ ⟨⟩
      exact Bool.eq_false_iff.2 again

theorem tries_attemptsLeft {event : Except Error α → Event} {counter : Counter} {left : Nat}
    {last : Option Error} (once : ∀ s t x s', Run w attempt.run s t x s' → t = [event x])
    (h : Run w (attemptsLeft (Action.count counter) operation attempt (left + 1) last).run s t r s') :
    Tries event counter (left + 1) t r := by
  induction left generalizing s t last with
  | zero =>
    obtain ⟨rfl, final⟩ | ⟨error, _, _, rfl, again, rest⟩ := run_attemptsLeft_call once h
    · exact @Tries.decided _ event counter _ [] r (List.forall_mem_nil _) Nat.one_pos final
    · obtain ⟨_, _, _, _, rfl, counted, passed⟩ := Run.bind_iff.1 rest
      obtain ⟨rfl, -⟩ := Run.ask_iff.1 counted
      obtain ⟨rfl, rfl, -⟩ := Run.pure_iff.1 passed
      exact @Tries.exhausted _ event counter _ [] error (List.forall_mem_nil _) again rfl
  | succ left ih =>
    obtain ⟨rfl, final⟩ | ⟨error, _, _, rfl, again, rest⟩ := run_attemptsLeft_call once h
    · exact @Tries.decided _ event counter _ [] r (List.forall_mem_nil _) (Nat.succ_pos _) final
    · exact (ih rest).before again

/-- Attempts at one call fail in ways that may pass, up to the one that decides, or four times. -/
theorem tries_attempts {event : Except Error α → Event} {counter : Counter}
    (once : ∀ s t x s', Run w attempt.run s t x s' → t = [event x])
    (h : Run w (attempts (Action.count counter) operation attempt).run s t r s') :
    Tries event counter limit t r :=
  tries_attemptsLeft once h

theorem run_attempts_once {event : Except Error α → Event}
    (once : ∀ s t x s', Run w attempt.run s t x s' → t = [event x]) (succeeds : ∀ e, event (.error e) ∉ t)
    (h : Run w (attempts exhausted operation attempt).run s t r s') :
    Run w attempt.run s t r s' ∧ ∃ a, r = .ok a := by
  obtain ⟨_, x, _, t₂, rfl, tried, outcome⟩ := run_attempts h
  obtain rfl := once _ _ _ _ tried
  cases x with
  | error e => exact absurd List.mem_cons_self (succeeds e)
  | ok a =>
    obtain ⟨_, same, -⟩ | ⟨rfl, rfl, rfl⟩ := outcome
    · cases same
    · exact ⟨tried, a, rfl⟩

/-- Attempts end well only with one that does. -/
theorem ran_of_attempts {a : α} (h : Run w (attempts exhausted operation attempt).run s t (.ok a) s') :
    Ran w attempt.run (.ok a) t := by
  unfold attempts at h
  -- The bound and the error of the attempt before do not matter; the induction needs them free.
  generalize limit = left, (none : Option Error) = last at h
  induction left generalizing s t last with
  | zero =>
    obtain ⟨_, _, _, _, rfl, -, passed⟩ := Run.bind_iff.1 h
    obtain ⟨-, same, -⟩ := Run.pure_iff.1 passed
    cases same
  | succ left ih =>
    obtain ⟨t₁, x, s₁, t₂, rfl, tried, ⟨e, -, -, again⟩ | ⟨rfl, -, -⟩⟩ := run_attemptsLeft_succ h
    · exact (ih _ again).right
    · exact (Ran.of_run tried).left

/-- Attempts that leave the state alone end well only with one that does, on that state. -/
theorem run_attempts_same (counted : ∀ s t u s', Run w exhausted s t u s' → s' = s)
    (tried : ∀ s t x s', Run w attempt.run s t x s' → s' = s)
    (h : Run w (attempts exhausted operation attempt).run s t r s') :
    s' = s ∧ ∀ a, r = .ok a → ∃ u, Run w attempt.run s u (.ok a) s := by
  unfold attempts at h
  -- The bound and the error of the attempt before do not matter; the induction needs them free.
  generalize limit = left, (none : Option Error) = last at h
  induction left generalizing t last with
  | zero =>
    obtain ⟨_, _, _, _, rfl, asked, passed⟩ := Run.bind_iff.1 h
    obtain rfl := counted _ _ _ _ asked
    obtain ⟨-, rfl, rfl⟩ := Run.pure_iff.1 passed
    exact ⟨rfl, nofun⟩
  | succ left ih =>
    obtain ⟨_, x, _, _, rfl, first, outcome⟩ := run_attemptsLeft_succ h
    obtain rfl := tried _ _ _ _ first
    obtain ⟨_, -, -, rest⟩ | ⟨rfl, -, rfl⟩ := outcome
    · exact ih _ rest
    · refine ⟨rfl, fun a same => ?_⟩
      subst same
      exact ⟨_, first⟩

theorem eval_attemptsLeft {answer : σ → (c : Call) → c.Answer × σ} {left : Nat} {last : Option Error}
    (final : ∀ e, r = .error e → e.isRetryable = false) (h : attempt.run.run answer s = (r, s')) :
    (attemptsLeft exhausted operation attempt (left + 1) last).run.run answer s = (r, s') := by
  unfold attemptsLeft
  rw [ExceptT.run_mk, run_bind, h]
  cases r with
  | ok a => rfl
  | error e =>
    simp only [final e rfl]
    rfl

theorem eval_attempts {answer : σ → (c : Call) → c.Answer × σ}
    (final : ∀ e, r = .error e → e.isRetryable = false) (h : attempt.run.run answer s = (r, s')) :
    (attempts exhausted operation attempt).run.run answer s = (r, s') :=
  eval_attemptsLeft final h

/-! ## Outcomes that are given -/

/-- How far a repetition has got: the attempts it has made, and what it has counted. -/
structure Progress where
  made : Nat
  counted : List Counter

/-- The attempt after `n` others has the outcome `outcome n`. -/
def given (outcome : Nat → Except Error α) : ExceptT Error (StateM Progress) α :=
  ExceptT.mk fun p => (outcome p.made, { p with made := p.made + 1 })

def noted (c : Counter) : StateM Progress Unit :=
  fun p => ((), { p with counted := p.counted ++ [c] })

/-- Whether an outcome is a failure that repetition may mend. -/
def mayPass : Except Error α → Bool
  | .ok _ => false
  | .error e => e.isRetryable

theorem mayPass_iff {x : Except Error α} : mayPass x = true ↔ ∃ e, x = .error e ∧ e.isRetryable = true := by
  cases x with
  | ok a => exact ⟨nofun, nofun⟩
  | error e => exact ⟨fun again => ⟨e, rfl, again⟩, by rintro ⟨_, ⟨⟩, again⟩; exact again⟩

/-- An error that blames the request is not mended by repeating it. -/
theorem isRetryable_of_status {e : Error} (blamed : 400 ≤ e.status) (within : e.status ≤ 499) :
    e.isRetryable = false := by
  cases e with
  | backend _ status | catalog _ status =>
    cases status with
    | none => cases (by decide : ¬502 ≤ 499) within
    | some status =>
      by_cases client : Error.isClientStatus status = true
      · simp only [Error.isRetryable, Option.any_some, client, Bool.not_true]
      · simp only [Error.status, Error.gatewayStatus, client, Bool.false_eq_true, if_false] at within
        omega
  | transport _ => cases (by decide : ¬503 ≤ 499) within
  | database _ => cases (by decide : ¬500 ≤ 499) within
  | _ => rfl

section
variable {outcome : Nat → Except Error α} {c : Counter} {n left : Nat} {counted : List Counter}
  {last : Option Error}

theorem attemptsLeft_given_succ :
    (attemptsLeft (noted c) operation (given outcome) (left + 1) last).run ⟨n, counted⟩ =
      (match outcome n with
        | .ok a => pure (.ok a)
        | .error e =>
          if e.isRetryable then (attemptsLeft (noted c) operation (given outcome) left (some e)).run
          else pure (.error e) : StateM Progress (Except Error α)) ⟨n + 1, counted⟩ := by
  rw [attemptsLeft]
  rfl

theorem attemptsLeft_final (final : mayPass (outcome n) = false) :
    (attemptsLeft (noted c) operation (given outcome) (left + 1) last).run ⟨n, counted⟩ =
      (outcome n, ⟨n + 1, counted⟩) := by
  rw [attemptsLeft_given_succ]
  cases ended : outcome n with
  | ok a => rfl
  | error e =>
    rw [ended] at final
    simp only [show e.isRetryable = false from final, Bool.false_eq_true, if_false]
    rfl

theorem attemptsLeft_again {e : Error} (failed : outcome n = .error e) (again : e.isRetryable = true) :
    (attemptsLeft (noted c) operation (given outcome) (left + 1) last).run ⟨n, counted⟩ =
      (attemptsLeft (noted c) operation (given outcome) left (some e)).run ⟨n + 1, counted⟩ := by
  rw [attemptsLeft_given_succ, failed]
  simp only [again, if_true]

/-- Of the attempts after `n` others, with `left` more behind the first, the one after `j` of them is the last. -/
structure EndsAt (outcome : Nat → Except Error α) (n left j : Nat) : Prop where
  within : j ≤ left
  before : ∀ i < j, mayPass (outcome (n + i)) = true
  full : mayPass (outcome (n + j)) = true → j = left

theorem EndsAt.step {j : Nat} (again : mayPass (outcome n) = true) (h : EndsAt outcome (n + 1) left j) :
    EndsAt outcome n (left + 1) (j + 1) where
  within := Nat.succ_le_succ h.within
  before i early := by
    cases i with
    | zero => exact again
    | succ i =>
      have earlier := h.before i (Nat.lt_of_succ_lt_succ early)
      rwa [Nat.add_right_comm] at earlier
  full passes := by
    rw [← Nat.succ_add_eq_add_succ] at passes
    exact congrArg (· + 1) (h.full passes)

theorem EndsAt.tail {j : Nat} (h : EndsAt outcome n (left + 1) (j + 1)) : EndsAt outcome (n + 1) left j where
  within := Nat.le_of_succ_le_succ h.within
  before i early := by
    rw [Nat.add_right_comm]
    exact h.before (i + 1) (Nat.succ_lt_succ early)
  full passes := by
    rw [Nat.add_right_comm] at passes
    exact Nat.succ.inj (h.full passes)

theorem exists_endsAt (outcome : Nat → Except Error α) (n left : Nat) : ∃ j, EndsAt outcome n left j := by
  induction left generalizing n with
  | zero => exact ⟨0, Nat.le_refl 0, nofun, fun _ => rfl⟩
  | succ left ih =>
    cases first : mayPass (outcome n) with
    | false => exact ⟨0, Nat.zero_le _, nofun, fun again => nomatch first.symm.trans again⟩
    | true =>
      obtain ⟨j, ends⟩ := ih (n + 1)
      exact ⟨j + 1, ends.step first⟩

/-- The last attempt decides, and what may have passed then is counted. -/
theorem attemptsLeft_given {j : Nat} (ends : EndsAt outcome n left j) :
    (attemptsLeft (noted c) operation (given outcome) (left + 1) last).run ⟨n, counted⟩ =
      (outcome (n + j), ⟨n + j + 1, if mayPass (outcome (n + j)) then counted ++ [c] else counted⟩) := by
  induction j generalizing n left last with
  | zero =>
    simp only [Nat.add_zero]
    cases first : mayPass (outcome n) with
    | false => exact attemptsLeft_final first
    | true =>
      obtain rfl := ends.full first
      obtain ⟨e, failed, again⟩ := mayPass_iff.1 first
      rw [attemptsLeft_again failed again, failed]
      rfl
  | succ j ih =>
    cases left with
    | zero => exact absurd ends.within (Nat.not_succ_le_zero j)
    | succ left =>
      have first : mayPass (outcome n) = true := ends.before 0 j.succ_pos
      obtain ⟨e, failed, again⟩ := mayPass_iff.1 first
      rw [attemptsLeft_again failed again, ih ends.tail, Nat.succ_add_eq_add_succ]

end

/-- However the attempts turn out, they end with the first that succeeds or fails for good, and that is the
fourth at the latest. Its outcome is returned, and it is counted if all four have failed in a way that may
pass. After an error that blames the request there is no further attempt. -/
theorem attempts_end_at_first_final (outcome : Nat → Except Error α) (operation : String) :
    ∃ last < 4, (∀ i < last, mayPass (outcome i) = true) ∧ (mayPass (outcome last) = true → last = 3) ∧
      (Keystore.Networked.retry noted operation (given outcome)).run ⟨0, []⟩ =
        (outcome last, ⟨last + 1,
          if ∀ i : Nat, i < 4 → mayPass (outcome i) = true then [.retriesExhausted operation] else []⟩) ∧
      ∀ i ≤ last, ∀ e, outcome i = .error e → 400 ≤ e.status → e.status ≤ 499 → i = last := by
  obtain ⟨last, ends⟩ := exists_endsAt outcome 0 3
  have ended := @attemptsLeft_given α operation outcome (.retriesExhausted operation) 0 3 [] none last ends
  obtain ⟨few, before, full⟩ := ends
  simp only [Nat.zero_add, List.nil_append] at before full ended
  have all : mayPass (outcome last) = true ↔ ∀ i < 4, mayPass (outcome i) = true := by
    constructor
    · intro again i early
      obtain rfl := full again
      obtain earlier | rfl := Nat.lt_succ_iff_lt_or_eq.1 early
      · exact before i earlier
      · exact again
    · exact fun all => all last (Nat.lt_succ_of_le few)
  refine ⟨last, Nat.lt_succ_of_le few, before, full, ?_, ?_⟩
  · simp only [← all]
    exact ended
  · intro i early e failed blamed within
    obtain earlier | same := Nat.lt_or_eq_of_le early
    · have again := before i earlier
      rw [failed] at again
      cases (isRetryable_of_status blamed within).symm.trans again
    · exact same

end KeyCustody.Retry
