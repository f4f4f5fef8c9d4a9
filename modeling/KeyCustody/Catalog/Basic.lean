import KeyCustody.Caller
import KeyCustody.Catalog.Query
import KeyCustody.Secret.Basic

/-!
# The catalog

What the engine needs from the catalog, which owns the descriptions of secrets and remembers the
phase that each was last seen in. Material is never sent there.
-/

namespace KeyCustody

structure Catalog (m : Type → Type) where
  /-- Stores a new record under the identifier it carries. -/
  create : Caller → Secret → ExceptT Error m Secret
  /-- The record of an identifier, deleted or not; `none` if there never was one. -/
  get : Caller → String → ExceptT Error m (Option Secret)
  change : Caller → String → PhaseChange → ExceptT Error m Unit
  /-- Marks a record as deleted and destroyed, and returns it. -/
  delete : Caller → String → ExceptT Error m Secret
  /-- A page of the tenant's records that are not deleted. -/
  list : Caller → Catalog.Query → ExceptT Error m (List Secret)
  /-- How many records of the tenant are not deleted. -/
  total : Caller → Catalog.Query → ExceptT Error m Nat

end KeyCustody
