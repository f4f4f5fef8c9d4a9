import KeyCustody.Caller
import KeyCustody.Ledger
import KeyCustody.Secret.Basic

/-!
# Keystores

What the engine needs from the system that holds material. A keystore issues the identifiers under
which secrets are known.
-/

namespace KeyCustody

namespace Keystore

/-- What a keystore finds on reading: the phase, and in the active phase the material. -/
structure Observation where
  payload : Option Sealed
  phase : Phase
  deriving DecidableEq

namespace Observation

def active (payload : Sealed) : Observation := ⟨some payload, .activation⟩

def without (phase : Phase) : Observation := ⟨none, phase⟩

end Observation

/-- How a creation ended: the identifier issued, and what became of the secret and the ledger on the
way, also if it failed. -/
structure Creation (m : Type → Type) where
  result : Except Error String
  secret : Secret
  ledger : Ledger m

end Keystore

open Keystore

structure Keystore (m : Type → Type) where
  /-- Stores the material of a secret, or has it generated. Steps that have to be undone if the
  request fails are entered in the ledger. -/
  create : Caller → Secret → Ledger m → m (Creation m)
  delete : Caller → String → Ledger m → m (Except Error Unit × Ledger m)
  payload : Caller → String → ExceptT Error m Observation
  check : Caller → String → ExceptT Error m Phase

namespace Keystore

variable {m : Type → Type} [Monad m]

/-- A deletion that has nothing to undo. -/
def withoutCompensation (delete : Caller → String → ExceptT Error m Unit) (caller : Caller)
    (id : String) (ledger : Ledger m) : m (Except Error Unit × Ledger m) :=
  return (← (delete caller id).run, ledger)

/-- The phase of material that is in use. -/
def inUse : PhaseChange := ⟨.activation, some .keyActive⟩

end Keystore

end KeyCustody
