import KeyCustody.Caller
import KeyCustody.Registry.Entry

/-!
# The registry as a map

Entries by tenant and identifier. An update overwrites whether or not there was an entry, and a
deleted entry is gone.
-/

namespace KeyCustody.Registry

abbrev Map := List ((Tenant × String) × Entry)

namespace Map

def put (key : Tenant × String) (e : Entry) (m : Map) : Map :=
  (key, e) :: m.filter (·.1 ≠ key)

def add (tenant : Tenant) (e : Entry) (m : Map) : Except Error Unit × Map :=
  match e.check with
  | .error error => (.error error, m)
  | .ok () =>
    if (m.lookup (tenant, e.issuedId)).isSome then (.error (taken e.issuedId), m)
    else (.ok (), m.put (tenant, e.issuedId) e)

def get (tenant : Tenant) (id : String) (m : Map) : Except Error Entry :=
  match m.lookup (tenant, id) with
  | some e => if e.isEmpty then .error (.noSecret id) else .ok e
  | none => .error (.noSecret id)

def update (tenant : Tenant) (e : Entry) (m : Map) : Except Error Unit × Map :=
  match e.check with
  | .error error => (.error error, m)
  | .ok () => (.ok (), m.put (tenant, e.issuedId) e)

def delete (tenant : Tenant) (id : String) (m : Map) : Except Error Unit × Map :=
  (.ok (), m.filter (·.1 ≠ (tenant, id)))

end Map

end KeyCustody.Registry
