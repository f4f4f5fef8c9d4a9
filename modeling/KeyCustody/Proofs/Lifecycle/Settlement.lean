import KeyCustody.Proofs.Lifecycle
import KeyCustody.Proofs.SingleFault

/-!
# How settling a verdict goes

The calls that settle a verdict, what is returned, and the secret as it then stands, for each call that can
fail. Whatever holds of settling follows from these cases.
-/

namespace KeyCustody.Lifecycle

open Program

variable {σ : Type} {w : World σ} {caller : Caller} {s : Secret} {v : Verdict} {y y' : σ} {t : Trace}
  {x : Except Error Unit × Secret}

/-- What comes before the phase is written: if there will be no material, the record is deleted. -/
inductive Prepared (caller : Caller) (s : Secret) (v : Verdict) : Trace → Secret → Prop
  | plain (well : v.generationFailed = false) : Prepared caller s v [] s
  | deleted (failed : v.generationFailed = true) (last : Secret) :
      Prepared caller s v [⟨.deleteRecord caller s.id, .ok last⟩] { s with deleted := true }

inductive Settlement (caller : Caller) (s : Secret) (v : Verdict) : Trace → Except Error Unit → Secret → Prop
  | unchanged (unchanged : v.changed = false) : Settlement caller s v [] (.ok ()) s
  | undeleted (changed : v.changed = true) (failed : v.generationFailed = true) (e : Error) :
      Settlement caller s v [⟨.deleteRecord caller s.id, .error e⟩] (.error e) s
  | unwritten (changed : v.changed = true) {t : Trace} {s₁ : Secret} (prepared : Prepared caller s v t s₁)
      (e : Error) : Settlement caller s v (t ++ [⟨.changeRecord caller s.id v.change, .error e⟩]) (.error e) s₁
  | written (changed : v.changed = true) {t : Trace} {s₁ : Secret} (prepared : Prepared caller s v t s₁) :
      Settlement caller s v
        (t ++ [⟨.changeRecord caller s.id v.change, .ok ()⟩, ⟨.count (.transition s.phase v.phase), ()⟩])
        (.ok ()) (s₁.enter v.change)

theorem Prepared.own {s₁ : Secret} (h : Prepared caller s v t s₁) : s₁.id = s.id ∧ s₁.phase = s.phase := by
  cases h with
  | plain | deleted => exact ⟨rfl, rfl⟩

theorem Prepared.unfailed {s₁ : Secret} (h : Prepared caller s v t s₁) : Unfailed t := by
  cases h with
  | plain => exact List.forall_mem_nil _
  | deleted => exact List.forall_mem_singleton.2 nofun

theorem settlement_of_write {s₁ : Secret} {u : Trace} (changed : v.changed = true)
    (prepared : Prepared caller s v u s₁)
    (h : Run w (write Action.catalog Action.count caller s₁ v) y t x y') :
    Settlement caller s v (u ++ t) x.1 x.2 := by
  obtain ⟨_, written, _, _, rfl, asked, ended⟩ := Run.bind_iff.1 h
  obtain ⟨rfl, -⟩ := Run.ask_iff.1 asked
  rw [prepared.own.1]
  cases written with
  | error e =>
    obtain ⟨rfl, rfl, -⟩ := Run.pure_iff.1 ended
    exact .unwritten changed prepared e
  | ok _ =>
    obtain ⟨_, _, _, _, rfl, counted, passed⟩ := Run.bind_iff.1 ended
    obtain ⟨rfl, -⟩ := Run.ask_iff.1 counted
    obtain ⟨rfl, rfl, -⟩ := Run.pure_iff.1 passed
    rw [prepared.own.2]
    exact .written changed prepared

theorem settlement_of_run (h : Run w (settle Action.catalog Action.count caller s v) y t x y') :
    Settlement caller s v t x.1 x.2 := by
  cases changed : v.changed with
  | false =>
    rw [settle_unchanged changed] at h
    obtain ⟨rfl, rfl, -⟩ := Run.pure_iff.1 h
    exact .unchanged changed
  | true =>
    cases failed : v.generationFailed with
    | false =>
      rw [settle_changed changed failed] at h
      exact settlement_of_write changed (.plain failed) h
    | true =>
      rw [settle_failed changed failed] at h
      obtain ⟨_, deleted, _, _, rfl, asked, ended⟩ := Run.bind_iff.1 h
      obtain ⟨rfl, -⟩ := Run.ask_iff.1 asked
      cases deleted with
      | error e =>
        obtain ⟨rfl, rfl, -⟩ := Run.pure_iff.1 ended
        exact .undeleted changed failed e
      | ok last => exact settlement_of_write changed (.deleted failed last) ended

end KeyCustody.Lifecycle
