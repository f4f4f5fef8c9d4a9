import KeyCustody.Secret.Basic
import KeyCustody.Violation

/-!
# Limits on secrets

How long a secret's texts may be, how many tags and entries it may have, and which characters are
reserved. Lengths count characters.
-/

namespace KeyCustody.Secret

def maxPayload : Nat := 10000
/-- The longest name or description: its encrypted form fits a column of 255 characters. -/
def maxText : Nat := 230
def minName : Nat := 2
def maxTags : Nat := 30
def maxTag : Nat := 30
def maxEntries : Nat := 30
def maxEntry : Nat := 130

/-- Characters that neither tags nor names of notes may contain. -/
def reserved : List Char := ['<', '>', ':', '&', '|']

def hasReserved (text : String) : Bool :=
  text.toList.any reserved.contains

def reservedMessage : String :=
  "contains a reserved character (angled bracket, colon, ampersand, or vertical pipe)"

def tagFault? (tag : String) : Option String :=
  if maxTag < tag.length then some "Tag too long"
  else if hasReserved tag then some ("Tag " ++ reservedMessage)
  else none

/-- What is wrong with an entry; only some entries have names with reserved characters refused. -/
def entryFault? (label : String) (guarded : Bool) (entry : String × String) : Option String :=
  if maxEntry < entry.1.length then some (label ++ " key too long")
  else if guarded && hasReserved entry.1 then some (label ++ " key " ++ reservedMessage)
  else if maxEntry < entry.2.length then some (label ++ " value too long")
  else none

/-- What is wrong with a collection: its size, or its first faulty entry. -/
def attributesFault? (label : String) (guarded : Bool) (a : Attributes) : Option String :=
  if maxEntries < a.size then some ("Too many " ++ label ++ " key value pairs")
  else a.entries.findSome? (entryFault? label guarded)

def nameFaults (s : Secret) : List String :=
  if minName ≤ s.name.length ∧ s.name.length ≤ maxText then [] else ["Name incorrect length"]

def descriptionFaults (s : Secret) : List String :=
  if s.description.any (maxText < ·.length) then ["Description too long"] else []

def tagFaults (s : Secret) : List String :=
  (if maxTags < s.tags.length then ["Too many tags"] else []) ++
    (s.tags.findSome? tagFault?).toList

def parameterFaults (s : Secret) : List String :=
  (attributesFault? "Algorithm metadata" false s.parameters).toList

def noteFaults (s : Secret) : List String :=
  (attributesFault? "User metadata" true s.notes).toList

/-- The fields that break their limits. -/
def violations (s : Secret) : List Violation :=
  [⟨"name", s.nameFaults⟩, ⟨"description", s.descriptionFaults⟩, ⟨"tags", s.tagFaults⟩,
    ⟨"algorithm_metadata", s.parameterFaults⟩, ⟨"user_metadata", s.noteFaults⟩].filter
    fun v => !v.messages.isEmpty

def validate (s : Secret) : Except Error Unit :=
  Violation.check s.violations

/-- What a new secret has to keep besides the limits of its record: the length of its material. -/
def validateNew (s : Secret) : Except Error Unit := do
  s.validate
  if s.payload.any (maxPayload < ·.length) then
    throw (.validation "Payload too long" "payload")

end KeyCustody.Secret
