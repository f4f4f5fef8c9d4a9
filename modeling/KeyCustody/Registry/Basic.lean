import KeyCustody.Caller
import KeyCustody.Registry.Entry

/-!
# The registry

What the engine needs from a registry of issued identifiers, and how a free identifier is found.
-/

namespace KeyCustody

open Registry (Entry)

structure Registry (m : Type → Type) where
  /-- Adds an entry under its identifier, which must be free. -/
  add : Tenant → Entry → ExceptT Error m Unit
  get : Tenant → String → ExceptT Error m Entry
  update : Tenant → Entry → ExceptT Error m Unit
  /-- Gives an identifier up. -/
  delete : Tenant → String → ExceptT Error m Unit

namespace Registry

variable {m : Type → Type} [Monad m]

/-- The error of an allocation that was allowed `tries` candidates and found none of them free. -/
def noneFree (tries : Nat) : Error :=
  .internal ("No free identifier among " ++ toString tries ++ " candidates")

/-- Draws identifiers until one is not found in the registry, up to a number of tries, and adds the
entry under it. Any other failure to look a candidate up ends the search. -/
def allocateWithin (tries : Nat) (r : Registry m) (draw : m String) (tenant : Tenant) (e : Entry) :
    Nat → ExceptT Error m String
  | 0 => throw (noneFree tries)
  | left + 1 => ExceptT.mk do
    let candidate ← draw
    match ← (r.get tenant candidate).run with
    | .ok _ => (allocateWithin tries r draw tenant e left).run
    | .error error =>
      if error.isNotFound then
        return (← (r.add tenant { e with issuedId := candidate }).run).map fun () => candidate
      else return .error error

/-- A source of candidates for identifiers, and how many of them an allocation may try. -/
structure Candidates (m : Type → Type) where
  draw : m String
  tries : Nat

/-- Adds an entry under a free identifier, and returns that. -/
def allocate (r : Registry m) (c : Candidates m) (tenant : Tenant) (e : Entry) :
    ExceptT Error m String :=
  allocateWithin c.tries r c.draw tenant e c.tries

end Registry

end KeyCustody
