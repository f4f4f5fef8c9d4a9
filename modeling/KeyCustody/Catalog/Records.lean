import KeyCustody.Caller
import KeyCustody.Catalog.Query
import KeyCustody.Secret.Basic

/-!
# A catalog in memory

Records by tenant and identifier. Deleting a record keeps it, marked as deleted and destroyed.
Listing leaves such records out and goes by the date of creation, then by identifier.
-/

namespace KeyCustody.Catalog

open Time

abbrev Records := List ((Tenant × String) × Secret)

/-- The order of a listing: records without a date of creation come first. -/
def precedes (a b : Secret) : Bool :=
  match a.creation, b.creation with
  | none, some _ => true
  | some _, none => false
  | none, none => a.id ≤ b.id
  | some s, some t => s < t || (s = t && a.id ≤ b.id)

namespace Records

def put (key : Tenant × String) (s : Secret) (r : Records) : Records :=
  (key, s) :: r.filter (·.1 ≠ key)

/-- The records of a tenant that are not deleted, in the order of a listing. -/
def live (tenant : Tenant) (r : Records) : List Secret :=
  ((r.filter fun e => e.1.1 = tenant && !e.2.deleted).map (·.2)).mergeSort precedes

/-- Stores a new record without its material; one without a date of creation is dated `now`. -/
def create (tenant : Tenant) (now : Instant) (s : Secret) (r : Records) :
    Except Error Secret × Records :=
  if s.id.isEmpty then (.error (.validation "Secret id required" "id"), r)
  else
    let stored := { s with payload := none, creation := some (s.creation.getD now) }
    if (r.lookup (tenant, s.id)).isSome then
      (.error (.conflict ("Secret '" ++ s.id ++ "' already exists") Error.secretResource), r)
    else (.ok stored, r.put (tenant, s.id) stored)

/-- Stores a record as it is, whatever was there before. -/
def seed (tenant : Tenant) (s : Secret) (r : Records) : Records :=
  r.put (tenant, s.id) s

def get (tenant : Tenant) (id : String) (r : Records) : Option Secret :=
  r.lookup (tenant, id)

def change (tenant : Tenant) (id : String) (c : PhaseChange) (r : Records) :
    Except Error Unit × Records :=
  match r.lookup (tenant, id) with
  | some s => (.ok (), r.put (tenant, id) (s.enter c))
  | none => (.error (.noSecret id), r)

def delete (tenant : Tenant) (id : String) (r : Records) : Except Error Secret × Records :=
  match r.lookup (tenant, id) with
  | some s =>
    let gone := { s with deleted := true, phase := .destroyed }
    (.ok gone, r.put (tenant, id) gone)
  | none => (.error (.noSecret id), r)

def list (tenant : Tenant) (q : Query) (r : Records) : List Secret :=
  ((r.live tenant).drop q.offset).take q.limit

def total (tenant : Tenant) (r : Records) : Nat :=
  (r.live tenant).length

end Records

end KeyCustody.Catalog
