import KeyCustody.Json.Record
import KeyCustody.Violation

/-!
# Pages

Which part of a tenant's records to list: how many at most, and how many to skip before them.
-/

namespace KeyCustody.Catalog

open Json

structure Query where
  limit : Nat
  offset : Nat
  deriving DecidableEq, Repr

namespace Query

def defaultLimit : Nat := 200
def maxLimit : Nat := 5000

def largest : Nat := 4294967295

def ofJson? (j : Json) : Option Query := do
  let fields ← j.record? ["limit", "offset"] 0
  let limit ← field? fields "limit" (asNat? largest) (some defaultLimit)
  let offset ← field? fields "offset" (asNat? largest) (some 0)
  return ⟨limit, offset⟩

def violations (q : Query) : List Violation :=
  if 1 ≤ q.limit ∧ q.limit ≤ maxLimit then []
  else [⟨"limit", ["limit must be between 1 and " ++ toString maxLimit]⟩]

def validate (q : Query) : Except Error Unit :=
  Violation.check q.violations

end Query

end KeyCustody.Catalog
