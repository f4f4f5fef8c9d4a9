/-!
# Errors

What can go wrong, by kind, with its wording, the HTTP status it is answered with, and whether
trying again can help. Errors that a collaborator reports bring their own text along.
-/

namespace KeyCustody

inductive Error where
  | config (message : String)
  /-- The registry's database failed while doing what `context` says. -/
  | database (context : String)
  /-- A value does not have the JSON form of its type. -/
  | serialization
  /-- The request is malformed or over a limit, in `field` if one field alone is to blame. -/
  | validation (message : String) (field : Option String)
  | notFound (resource id : String)
  /-- The resource's present state refuses the operation. -/
  | conflict (message resource : String)
  /-- The keystore answered with an error. -/
  | backend (message : String) (status : Option Nat)
  /-- No usable answer came over the network. -/
  | transport (message : String)
  /-- The catalog answered with an error. -/
  | catalog (message : String) (status : Option Nat)
  | internal (message : String)
  deriving DecidableEq, Repr

namespace Error

def text : Error → String
  | config message => "Configuration error: " ++ message
  | database context => "Database error: " ++ context
  | serialization => "Serialization error: JSON serialization failed"
  | validation message _ => "Validation error: " ++ message
  | notFound resource id => "Resource not found: " ++ resource ++ " with ID '" ++ id ++ "'"
  | conflict message _ => "Resource conflict: " ++ message
  | backend message _ => "Keystore backend error: " ++ message
  | transport message => "Transport error: " ++ message
  | catalog message _ => "Metadata service error: " ++ message
  | internal message => "Internal error: " ++ message

def isClientStatus (status : Nat) : Bool :=
  400 ≤ status && status ≤ 499

/-- A status that blames the request is passed on; any other answer of a collaborator is a bad
gateway. -/
def gatewayStatus : Option Nat → Nat
  | some status => if isClientStatus status then status else 502
  | none => 502

def status : Error → Nat
  | config _ | database _ | serialization | internal _ => 500
  | validation .. => 400
  | notFound .. => 404
  | conflict .. => 409
  | transport _ => 503
  | backend _ status | catalog _ status => gatewayStatus status

/-- Whether the same call may succeed when it is repeated. -/
def isRetryable : Error → Bool
  | database _ | transport _ => true
  | backend _ status | catalog _ status => !status.any isClientStatus
  | _ => false

def isNotFound : Error → Bool
  | notFound .. => true
  | _ => false

def isConflict : Error → Bool
  | conflict .. => true
  | _ => false

/-- The one kind of resource that can be missing or in conflict. -/
def secretResource : String := "Secret"

def noSecret (id : String) : Error := .notFound secretResource id

end Error

end KeyCustody
