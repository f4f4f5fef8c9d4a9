import KeyCustody.Error
import KeyCustody.Json.Reader
import KeyCustody.Json.Record
import KeyCustody.Secret.Basic
import KeyCustody.Time.Rfc3339

/-!
# The written form of secrets

A secret as JSON, the material left out. A description and an algorithm are written only if given;
on reading, every field but the name may be missing.
-/

namespace KeyCustody

open Json Time

namespace Time.Instant

def ofJson? (j : Json) : Option Instant :=
  j.asString?.bind Rfc3339.read?

end Time.Instant

namespace Attributes

def toJson (a : Attributes) : Json :=
  .object (a.entries.map fun e => (e.1, .string e.2))

/-- Of entries of one name the last counts. -/
def ofJson? : Json → Option Attributes
  | .object members => do
    let entries ← members.mapM fun m => do return (m.1, ← m.2.asString?)
    return ofList entries
  | _ => none

end Attributes

namespace Secret

/-- The fields in the order in which a written array gives them. -/
def fieldNames : List String :=
  ["id", "name", "description", "tags", "algorithm_type", "algorithm_metadata", "user_metadata",
    "activation_date", "expiration_date", "creation_date", "extractable", "deleted", "state",
    "nonactive_reason"]

def optionalMember (name : String) (text : Option String) : List (String × Json) :=
  text.toList.map fun text => (name, .string text)

/-- What is written of a secret, in the order of its fields. -/
def members (s : Secret) : List (String × Json) :=
  ("id", .string s.id) :: ("name", .string s.name) ::
    (optionalMember "description" s.description ++
      ("tags", .array (s.tags.map .string)) ::
        (optionalMember "algorithm_type" s.algorithm ++
          [("algorithm_metadata", s.parameters.toJson),
            ("user_metadata", s.notes.toJson),
            ("activation_date", .ofString? (s.activation.map Rfc3339.write)),
            ("expiration_date", .ofString? (s.expiration.map Rfc3339.write)),
            ("creation_date", .ofString? (s.creation.map Rfc3339.write)),
            ("extractable", .bool s.extractable),
            ("deleted", .bool s.deleted),
            ("state", .string s.phase.name),
            ("nonactive_reason", .ofString? (s.reason.map Reason.name))]))

def toJson (s : Secret) : Json := .object s.members

def ofJson? (j : Json) : Option Secret := do
  let fields ← j.record? fieldNames 0
  let id ← field? fields "id" asString? (some "")
  let name ← field? fields "name" asString? none
  let description ← field? fields "description" (nullable? asString?) (some none)
  let tags ← field? fields "tags" strings? (some [])
  let algorithm ← field? fields "algorithm_type" (nullable? asString?) (some none)
  let parameters ← field? fields "algorithm_metadata" Attributes.ofJson? (some ∅)
  let notes ← field? fields "user_metadata" Attributes.ofJson? (some ∅)
  let activation ← field? fields "activation_date" (nullable? Instant.ofJson?) (some none)
  let expiration ← field? fields "expiration_date" (nullable? Instant.ofJson?) (some none)
  let creation ← field? fields "creation_date" (nullable? Instant.ofJson?) (some none)
  let extractable ← field? fields "extractable" asBool? (some true)
  let deleted ← field? fields "deleted" asBool? (some false)
  let phase ← field? fields "state" (variant? Phase.ofName?) (some .preactivation)
  let reason ← field? fields "nonactive_reason" (nullable? (variant? Reason.ofName?)) (some none)
  return {
    id, name, description, tags, payload := none, algorithm, parameters, notes, activation,
    expiration, creation, extractable, deleted, phase, reason }

def read (text : String) : Except Error Secret :=
  match (Json.read? text).bind ofJson? with
  | some s => .ok s
  | none => .error .serialization

end Secret

end KeyCustody
