import KeyCustody.Attributes
import KeyCustody.Phase
import KeyCustody.Sealed
import KeyCustody.Text.Blank
import KeyCustody.Time.Instant

/-!
# Secrets

A tenant's secret as the catalog knows it, and, for the length of a request, its material.
-/

namespace KeyCustody

open Time

structure Secret where
  /-- The issued identifier, empty until one is issued. -/
  id : String
  name : String
  description : Option String
  tags : List String
  /-- The key material. It is never part of the written form. -/
  payload : Option Sealed
  algorithm : Option String
  /-- Parameters of the algorithm, such as its mode and key length. -/
  parameters : Attributes
  /-- What the tenant notes about the secret. -/
  notes : Attributes
  activation : Option Instant
  expiration : Option Instant
  creation : Option Instant
  /-- Whether the material may be handed out. -/
  extractable : Bool
  deleted : Bool
  phase : Phase
  reason : Option Reason
  deriving DecidableEq

namespace Secret

/-- A secret of which nothing but the name is given. -/
def named (name : String) : Secret where
  id := ""
  name := name
  description := none
  tags := []
  payload := none
  algorithm := none
  parameters := ∅
  notes := ∅
  activation := none
  expiration := none
  creation := none
  extractable := true
  deleted := false
  phase := .preactivation
  reason := none

def material? (s : Secret) : Option Sealed :=
  s.payload.filter fun p => !p.isEmpty

def hasMaterial (s : Secret) : Bool := s.material?.isSome

def enter (s : Secret) (change : PhaseChange) : Secret :=
  { s with phase := change.phase, reason := change.reason }

/-- Whether the material may leave the engine: it is extractable, and in use. -/
def isReleasable (s : Secret) : Bool :=
  s.extractable && s.phase = .activation

/-- The secret without its material, unless that may leave the engine. -/
def redact (s : Secret) : Secret :=
  if s.isReleasable then s else { s with payload := none }

/-- Name, identifier and phase alone. -/
def summary (s : Secret) : Secret :=
  { named (Text.trim s.name) with id := s.id, phase := s.phase }

end Secret

end KeyCustody
