import KeyCustody.Json.Record

/-!
# Phases of a secret's life

A secret waits to be activated, is active, may be suspended, is deactivated when it expires, and is
destroyed in the end.
-/

namespace KeyCustody

inductive Phase where
  /-- Material is requested but not yet usable. -/
  | preactivation
  /-- Material is present and within its dates. -/
  | activation
  /-- Material is withheld for a time. -/
  | suspended
  /-- The expiration date has passed. -/
  | deactivated
  /-- The material is gone for good. -/
  | destroyed
  deriving DecidableEq, Repr, Inhabited

namespace Phase

def name : Phase → String
  | preactivation => "preactivation"
  | activation => "activation"
  | suspended => "suspended"
  | deactivated => "deactivated"
  | destroyed => "destroyed"

def all : List Phase := [preactivation, activation, suspended, deactivated, destroyed]

def ofName? (name : String) : Option Phase :=
  all.find? (·.name = name)

/-- A phase by its name, or what is wrong about the name. -/
def read (name : String) : Except String Phase :=
  match ofName? name with
  | some phase => .ok phase
  | none => .error ("Unknown key state: " ++ name)

/-- Whether an expiration date means anything in this phase. -/
def mayExpire : Phase → Bool
  | activation | suspended => true
  | _ => false

theorem ofName?_name (p : Phase) : ofName? p.name = some p := by
  cases p <;> decide

end Phase

/-- Why a secret is or is not in use. -/
inductive Reason where
  | keyActive
  | expired
  | generationFailed
  deriving DecidableEq, Repr

namespace Reason

def name : Reason → String
  | keyActive => "key_active"
  | expired => "expired"
  | generationFailed => "generation_failed"

def all : List Reason := [keyActive, expired, generationFailed]

def ofName? (name : String) : Option Reason :=
  all.find? (·.name = name)

theorem ofName?_name (r : Reason) : ofName? r.name = some r := by
  cases r <;> decide

end Reason

structure PhaseChange where
  phase : Phase
  reason : Option Reason
  deriving DecidableEq, Repr

namespace PhaseChange

open Json

def toJson (c : PhaseChange) : Json :=
  .object [("state", .string c.phase.name),
    ("nonactive_reason", .ofString? (c.reason.map Reason.name))]

def ofJson? (j : Json) : Option PhaseChange := do
  let fields ← j.record? ["state", "nonactive_reason"] 2
  let phase ← field? fields "state" (variant? Phase.ofName?) none
  let reason ← field? fields "nonactive_reason" (nullable? (variant? Reason.ofName?)) (some none)
  return ⟨phase, reason⟩

end PhaseChange

end KeyCustody
