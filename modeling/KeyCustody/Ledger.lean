import KeyCustody.Error
import KeyCustody.Text.Quoted

/-!
# Ledgers of compensations

Steps in several systems share no transaction. Each step that a later failure has to undo enters a
compensation in the ledger of its request; on failure they run, the latest first, up to the first
that fails, and on success they are dropped.
-/

namespace KeyCustody

/-- An action that undoes a step, under a label that says what it does. -/
structure Compensation (m : Type → Type) where
  label : String
  undo : ExceptT Error m Unit

structure Ledger (m : Type → Type) where
  /-- The compensations that have not run, the latest first. -/
  pending : List (Compensation m)
  completed : Bool

namespace Ledger

variable {m : Type → Type}

def empty : Ledger m := ⟨[], false⟩

def enter (l : Ledger m) (c : Compensation m) : Ledger m :=
  { l with pending := c :: l.pending }

/-- Marks the request as successful; nothing is left to undo. -/
def complete (_ : Ledger m) : Ledger m := ⟨[], true⟩

inductive Outcome where
  /-- Every compensation has run. -/
  | undone
  /-- A compensation failed, and those entered before it are still pending. -/
  | halted (error : Error)
  /-- The request was successful, so that undoing it is a mistake; nothing has run. -/
  | refused
  deriving DecidableEq, Repr

variable [Monad m]

/-- Runs compensations in order up to the first that fails, and returns those behind it. -/
def undoAll : List (Compensation m) → m (Outcome × List (Compensation m))
  | [] => pure (.undone, [])
  | c :: rest => do
    match ← c.undo.run with
    | .ok () => undoAll rest
    | .error error => pure (.halted error, rest)

def clean (l : Ledger m) : m (Outcome × Ledger m) := do
  if l.completed then return (.refused, l)
  let (outcome, rest) ← undoAll l.pending
  return (outcome, { l with pending := rest })

def refusal : String := "rollback requested on a completed ledger"

def describe (l : Ledger m) : String :=
  "RollbackLedger \x7b pending: [" ++
    ", ".intercalate (l.pending.map fun c => Text.Quoted.encode c.label) ++
    "], completed: " ++ toString l.completed ++ " \x7d"

end Ledger

end KeyCustody
