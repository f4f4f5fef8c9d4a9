import KeyCustody.Caller
import KeyCustody.Registry.Entry

/-!
# The registry as a table

Rows in the order of their insertion. Deleting marks a row, and adding its identifier again revives
it where it stands, so a row never leaves the table.
-/

namespace KeyCustody.Registry

structure Row where
  tenant : Tenant
  id : String
  /-- The reference to the secret, empty if there is none. -/
  secretRef : String
  /-- The reference to the order, empty if there is none. -/
  orderRef : String
  deleted : Bool
  deriving DecidableEq, Repr

namespace Row

def isFor (tenant : Tenant) (id : String) (r : Row) : Bool :=
  r.tenant = tenant && r.id = id

def isLive (tenant : Tenant) (id : String) (r : Row) : Bool :=
  r.isFor tenant id && !r.deleted

def refer (r : Row) (e : Entry) : Row :=
  { r with secretRef := e.secret?.getD "", orderRef := e.order?.getD "" }

def ofEntry (tenant : Tenant) (e : Entry) : Row :=
  Row.refer ⟨tenant, e.issuedId, "", "", false⟩ e

/-- The row as an entry; empty references are none. -/
def toEntry (r : Row) : Entry :=
  ⟨r.id, Entry.present r.secretRef, Entry.present r.orderRef⟩

end Row

abbrev Table := List Row

namespace Table

def add (tenant : Tenant) (e : Entry) (t : Table) : Except Error Unit × Table :=
  match e.check with
  | .error error => (.error error, t)
  | .ok () =>
    match t.find? (Row.isFor tenant e.issuedId) with
    | none => (.ok (), t ++ [Row.ofEntry tenant e])
    | some r =>
      if r.deleted then
        (.ok (), t.map fun r =>
          if r.isFor tenant e.issuedId then { r.refer e with deleted := false } else r)
      else (.error (taken e.issuedId), t)

def get (tenant : Tenant) (id : String) (t : Table) : Except Error Entry :=
  match (t.find? (Row.isLive tenant id)).map Row.toEntry with
  | some e => if e.isEmpty then .error (.noSecret id) else .ok e
  | none => .error (.noSecret id)

/-- Only a live row can be updated. -/
def update (tenant : Tenant) (e : Entry) (t : Table) : Except Error Unit × Table :=
  match e.check with
  | .error error => (.error error, t)
  | .ok () =>
    if t.any (Row.isLive tenant e.issuedId) then
      (.ok (), t.map fun r => if r.isLive tenant e.issuedId then r.refer e else r)
    else (.error (.noSecret e.issuedId), t)

def delete (tenant : Tenant) (id : String) (t : Table) : Except Error Unit × Table :=
  (.ok (), t.map fun r => if r.isLive tenant id then { r with deleted := true } else r)

end Table

end KeyCustody.Registry
