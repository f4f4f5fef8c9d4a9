import KeyCustody.Catalog.Basic
import KeyCustody.Counter
import KeyCustody.Keystore.Basic
import KeyCustody.Lifecycle
import KeyCustody.Retry
import KeyCustody.Secret.Limits

/-!
# The custodian

The requests that tenants make: to create a secret, to fetch one, to list or count them, and to
destroy one. Material lives in the keystore and the record in the catalog. A creation that fails
half way is undone by its ledger; a secret is brought up to date whenever it is read. Every request
is counted by how it ended.
-/

namespace KeyCustody

open Keystore (Observation)
open Time

structure Custodian (m : Type → Type) where
  keystore : Keystore m
  catalog : Catalog m
  now : m Instant
  count : Counter → m Unit

namespace Custodian

variable {m : Type → Type} [Monad m] (c : Custodian m)

def counted {α : Type} (operation : String) (request : m (Except Error α)) :
    ExceptT Error m α := ExceptT.mk do
  let result ← request
  c.count (.operation operation result.isOk)
  return result

/-! ## Creation -/

/-- Undoes what a request has done, and counts that. -/
def rollBack (operation : String) (ledger : Ledger m) : m (Ledger m) := do
  let (outcome, ledger) ← ledger.clean
  c.count (.rollback operation)
  if outcome ≠ .undone then c.count (.rollbackFailure operation)
  return ledger

/-- The record with the submitted material, if that may leave the engine. -/
def releaseTo (stored submitted : Secret) : Secret :=
  if stored.phase = .activation ∧ submitted.extractable then
    { stored with payload := submitted.payload }
  else stored

/-- A creation up to its end: stores the material, then the record, and undoes the first if the
second fails. What violates the limits reaches neither. -/
def place (caller : Caller) (s : Secret) : m (Except Error Secret × Ledger m) := do
  let s := { s with name := Text.trim s.name }
  match s.validateNew with
  | .error error => return (.error error, .empty)
  | .ok () =>
    let created ← c.keystore.create caller s .empty
    match created.result with
    | .error error => return (.error error, ← c.rollBack "create" created.ledger)
    | .ok id =>
      let s := { created.secret with id := id, creation := some (← c.now) }
      match ← (c.catalog.create caller s).run with
      | .error error => return (.error error, ← c.rollBack "create" created.ledger)
      | .ok stored => return (.ok (releaseTo stored s), created.ledger.complete)

/-- Creates a secret. Unless the whole record is asked for, the answer is its summary. -/
def create (caller : Caller) (s : Secret) (whole : Bool) : ExceptT Error m Secret :=
  c.counted "create" do
    let (result, _) ← c.place caller s
    return result.map fun stored => if whole then stored else stored.summary

/-! ## Reading -/

/-- Brings a record up to date, given what the keystore reports about it. -/
def update (caller : Caller) (s : Secret) (observed : Option Phase) : ExceptT Error m Secret :=
  ExceptT.mk do
    let (result, s) ← Lifecycle.settle c.catalog c.count caller s (s.assess observed (← c.now))
    return result.map fun () => s

def find (caller : Caller) (id : String) : ExceptT Error m Secret := do
  match ← c.catalog.get caller id with
  | some s => return s
  | none => throw (.noSecret id)

/-- The record up to date, with its material if that may leave the engine. A destroyed secret stays
as it is, and the keystore is not asked about a deleted one. -/
def read (caller : Caller) (id : String) : ExceptT Error m Secret := do
  let s ← c.find caller id
  if s.phase = .destroyed then return s
  else if s.deleted then c.update caller s none
  else
    let observed ← c.keystore.payload caller id
    let s ← c.update caller s (some observed.phase)
    return { s with payload := observed.payload }.redact

def fetch (caller : Caller) (id : String) : ExceptT Error m Secret :=
  c.counted "get" (c.read caller id).run

/-- A page of records, each brought up to date, without those found to be destroyed. -/
def readPage (caller : Caller) (q : Catalog.Query) : ExceptT Error m (List Secret) := do
  q.validate
  let page ← c.catalog.list caller q
  let now ← ExceptT.lift c.now
  let page ← ExceptT.lift
    (Lifecycle.settlePage (c.keystore.check caller) c.catalog c.count caller page now)
  return page.filter (·.phase ≠ .destroyed)

def list (caller : Caller) (q : Catalog.Query) : ExceptT Error m (List Secret) :=
  c.counted "list" (c.readPage caller q).run

def total (caller : Caller) (q : Catalog.Query) : ExceptT Error m Nat :=
  c.counted "head" do
    match q.validate with
    | .error error => return .error error
    | .ok () => (c.catalog.total caller q).run

/-! ## Destruction -/

/-- Destroying a secret whose material is asked for is refused while its key is being generated. -/
def stillGenerating : Error :=
  .conflict "Unable to delete secret while key is still generating." Error.secretResource

/-- The material before it is destroyed. A secret whose key is being generated is looked at again,
as often as a call is tried. -/
def lastMaterial (caller : Caller) (id : String) : Nat → ExceptT Error m Observation
  | 0 => throw stillGenerating
  | left + 1 => do
    let observed ← c.keystore.payload caller id
    if observed.phase = .preactivation then lastMaterial caller id left else return observed

/-- What is seen of the material before it is destroyed, if it is asked for. -/
def observeLast (caller : Caller) (id : String) (whole : Bool) :
    ExceptT Error m (Option Observation) :=
  if whole then some <$> c.lastMaterial caller id Retry.limit else return none

/-- The deleted record with the material seen last, if it is extractable. -/
def farewell (deleted : Secret) (observed : Observation) : Secret :=
  if deleted.extractable then { deleted with payload := observed.payload } else deleted

/-- A destruction up to its end: destroys the material, then marks the record. -/
def remove (caller : Caller) (id : String) (whole : Bool) (ledger : Ledger m) :
    m (Except Error (Option Secret) × Ledger m) := do
  match ← (c.observeLast caller id whole).run with
  | .error error => return (.error error, ledger)
  | .ok observed =>
    let (result, ledger) ← c.keystore.delete caller id ledger
    match result with
    | .error error => return (.error error, ledger)
    | .ok () =>
      let deleted ← (c.catalog.delete caller id).run
      return (deleted.map fun deleted => observed.map (farewell deleted), ledger)

/-- Destroys a secret. The deleted record is returned only if it is asked for. -/
def destroy (caller : Caller) (id : String) (whole : Bool) : ExceptT Error m (Option Secret) :=
  c.counted "delete" do
    let (result, _) ← c.remove caller id whole .empty
    return result

end Custodian

end KeyCustody
