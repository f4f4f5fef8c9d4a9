import KeyCustody.Error
import KeyCustody.Text.Blank

/-!
# Registry entries

An issued identifier and the references behind it: the secret that holds its material, the order
that generates it, or both once the order is done.
-/

namespace KeyCustody.Registry

structure Entry where
  issuedId : String
  secretRef : Option String
  orderRef : Option String
  deriving DecidableEq, Repr

namespace Entry

/-- The entry of a stored secret, not yet issued. -/
def ofSecret (ref : String) : Entry := ⟨"", some ref, none⟩

/-- The entry of an order, not yet issued. -/
def ofOrder (ref : String) : Entry := ⟨"", none, some ref⟩

/-- An empty reference is none. -/
def present (ref : Option String) : Option String := ref.filter fun r => !r.isEmpty

def secret? (e : Entry) : Option String := present e.secretRef

def order? (e : Entry) : Option String := present e.orderRef

def isEmpty (e : Entry) : Bool := e.secret?.isNone && e.order?.isNone

/-- The order, as long as it is all there is. -/
def pending? (e : Entry) : Option String :=
  if e.secret?.isNone then e.order? else none

def isUnresolved (e : Entry) : Bool := e.pending?.isSome

/-- Whether the material was generated, not supplied. -/
def isGenerated (e : Entry) : Bool := e.order?.isSome

/-- An entry needs an identifier that is more than blanks, and a reference. -/
def check (e : Entry) : Except Error Unit :=
  if Text.isBlankText e.issuedId then .error (.validation "Issued identifier required" "issued_id")
  else if e.isEmpty then
    .error (.validation "A secret reference or an order reference is required" none)
  else .ok ()

end Entry

def taken (id : String) : Error :=
  .conflict ("Issued identifier '" ++ id ++ "' already exists") Error.secretResource

end KeyCustody.Registry
