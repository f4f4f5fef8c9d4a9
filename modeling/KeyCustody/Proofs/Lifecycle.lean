import KeyCustody.Lifecycle

/-!
# Settling a verdict

What settling comes down to for each kind of verdict: nothing is written without a change, and a verdict
that there will be no material deletes the record before the phase is written.
-/

namespace KeyCustody

/-- The secret with a verdict on it written down. -/
def Secret.settledTo (s : Secret) (v : Verdict) : Secret :=
  if v.changed then { s with deleted := s.deleted || v.generationFailed }.enter v.change else s

namespace Lifecycle

variable {m : Type → Type} [Monad m] {catalog : Catalog m} {count : Counter → m Unit} {caller : Caller}
  {s : Secret} {v : Verdict}

/-- Writes the phase of a verdict, and returns the secret as it then stands. -/
def write (catalog : Catalog m) (count : Counter → m Unit) (caller : Caller) (s : Secret) (v : Verdict) :
    m (Except Error Unit × Secret) := do
  match ← (catalog.change caller s.id v.change).run with
  | .error error => return (.error error, s)
  | .ok () =>
    count (.transition s.phase v.phase)
    return (.ok (), s.enter v.change)

/-- What follows after the record has been deleted, or that has failed. -/
def writeDeleted (catalog : Catalog m) (count : Counter → m Unit) (caller : Caller) (s : Secret)
    (v : Verdict) : Except Error Secret → m (Except Error Unit × Secret)
  | .error error => return (.error error, s)
  | .ok _ => write catalog count caller { s with deleted := true } v

theorem settle_unchanged (unchanged : v.changed = false) :
    settle catalog count caller s v = pure (.ok (), s) := by
  unfold settle
  simp only [unchanged, Bool.not_false, if_true]

theorem settle_changed (changed : v.changed = true) (well : v.generationFailed = false) :
    settle catalog count caller s v = write catalog count caller s v := by
  unfold settle
  simp only [changed, well, Bool.not_true, Bool.false_eq_true, if_false]
  rfl

theorem settle_failed (changed : v.changed = true) (failed : v.generationFailed = true) :
    settle catalog count caller s v =
      (catalog.delete caller s.id).run >>= writeDeleted catalog count caller s v := by
  unfold settle
  simp only [changed, failed, Bool.not_true, Bool.false_eq_true, if_false, if_true]
  refine congrArg _ (funext fun x => ?_)
  cases x with
  | error _ => rfl
  | ok _ => rfl

end Lifecycle

end KeyCustody
