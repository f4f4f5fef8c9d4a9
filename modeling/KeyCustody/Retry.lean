import KeyCustody.Error

/-!
# Repeated attempts

A call that may fail for a passing reason is tried up to four times, without a pause between. The
first success or the first error that repetition cannot mend ends it; else the last error counts.
-/

namespace KeyCustody.Retry

variable {m : Type → Type} [Monad m] {α : Type}

def limit : Nat := 4

/-- The attempts that are left; `last` is the error of the one before them. -/
def attemptsLeft (exhausted : m Unit) (operation : String) (attempt : ExceptT Error m α) :
    Nat → Option Error → ExceptT Error m α
  | 0, last => ExceptT.mk do
    exhausted
    return .error (last.getD (.internal (operation ++ " made no attempts")))
  | left + 1, _ => ExceptT.mk do
    match ← attempt.run with
    | .ok value => return .ok value
    | .error error =>
      if error.isRetryable then
        (attemptsLeft exhausted operation attempt left (some error)).run
      else return .error error

/-- Tries a call; `exhausted` is run if every attempt failed and could have been repeated. -/
def attempts (exhausted : m Unit) (operation : String) (attempt : ExceptT Error m α) :
    ExceptT Error m α :=
  attemptsLeft exhausted operation attempt limit none

end KeyCustody.Retry
