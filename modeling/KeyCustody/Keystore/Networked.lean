import KeyCustody.Barbican.Basic
import KeyCustody.Counter
import KeyCustody.Keystore.Basic
import KeyCustody.Keystore.Generation
import KeyCustody.Registry.Basic
import KeyCustody.Retry

/-!
# The keystore over Barbican

Supplied material is stored as a secret. A key that is to be generated is ordered, and its entry
names only the order at first: a read that finds the order done adds the secret's reference.
-/

namespace KeyCustody

namespace Keystore.Networked

open Registry (Entry Candidates)
open Barbican (PayloadType OrderStatus)

variable {m : Type → Type} [Monad m] (registry : Registry m) (api : Barbican m)
  (count : Counter → m Unit) (candidates : Candidates m)

/-- Tries a call as often as calls are tried, and counts if that was in vain. -/
def retry {α : Type} (operation : String) (attempt : ExceptT Error m α) : ExceptT Error m α :=
  Retry.attempts (count (.retriesExhausted operation)) operation attempt

/-! ## Creation -/

/-- Stores supplied material and issues an identifier for it. -/
def store (caller : Caller) (s : Secret) (material : Sealed) (ledger : Ledger m) :
    m (Creation m) := do
  match ← (api.postSecret caller s.name material .text).run with
  | .error error => return ⟨.error error, s, ledger⟩
  | .ok ref =>
    let ledger := ledger.enter ⟨"delete backend secret", api.deleteSecret caller ref⟩
    match ← (registry.allocate candidates caller.tenant (.ofSecret ref)).run with
    | .error error => return ⟨.error error, s, ledger⟩
    | .ok id =>
      let ledger := ledger.enter ⟨"delete translation row", registry.delete caller.tenant id⟩
      return ⟨.ok id, s.enter inUse, ledger⟩

/-- Orders a key and issues an identifier for the order. An order is not undone. -/
def order (caller : Caller) (s : Secret) (key : KeyParameters) (ledger : Ledger m) :
    m (Creation m) := do
  let request :=
    ⟨s.name, key.algorithm, key.bitLength, key.mode, PayloadType.bytes.mime⟩
  match ← (api.postOrder caller request).run with
  | .error error => return ⟨.error error, s, ledger⟩
  | .ok ref =>
    match ← (registry.allocate candidates caller.tenant (.ofOrder ref)).run with
    | .error error => return ⟨.error error, s, ledger⟩
    | .ok id => return ⟨.ok id, s.enter ⟨.preactivation, none⟩, ledger⟩

def create (caller : Caller) (s : Secret) (ledger : Ledger m) : m (Creation m) :=
  match s.material? with
  | some material => store registry api candidates caller s material ledger
  | none =>
    match s.keyParameters with
    | .error error => return ⟨.error error, s.withKeyDefaults, ledger⟩
    | .ok key => order registry api candidates caller s.withKeyDefaults key ledger

/-! ## Reading -/

/-- What an entry stands for at present. -/
inductive Resolution where
  /-- The entry names its secret. -/
  | ready (e : Entry)
  | pending
  | failed

/-- Adds the secret's reference to an entry whose order is done. If that fails, the order is deleted
instead, which is tried once. -/
def promote (caller : Caller) (e : Entry) (orderRef : String) : m Unit := do
  match ← (retry count "promote_order" (registry.update caller.tenant e)).run with
  | .ok () => return ()
  | .error _ =>
    match ← (api.deleteOrder caller orderRef).run with
    | .ok () => return ()
    | .error _ => count .orphanedOrder

/-- What an entry stands for; an entry of an order that is done is ready even if it could not be
brought up to date. -/
def resolve (caller : Caller) (e : Entry) : ExceptT Error m Resolution := do
  match e.pending? with
  | none => return .ready e
  | some orderRef =>
    match ← retry count "check_order" (api.checkOrder caller orderRef) with
    | .pending => return .pending
    | .failed _ => return .failed
    | .active secretRef =>
      let e := { e with secretRef := some secretRef }
      ExceptT.lift (promote registry api count caller e orderRef)
      return .ready e

def look (caller : Caller) (id : String) : ExceptT Error m Resolution := do
  let e ← retry count "translate_id" (registry.get caller.tenant id)
  resolve registry api count caller e

/-- An entry that is ready, but names no secret. -/
def noReference : Error := .internal "Resolved row has no secret reference"

/-- Fetches the material of an entry: generated material as bytes, supplied material as text. -/
def fetch (caller : Caller) (e : Entry) : ExceptT Error m Observation := do
  match e.secret? with
  | none => throw noReference
  | some ref =>
    let type := if e.isGenerated then PayloadType.bytes else .text
    let material ← retry count "get_payload" (api.getPayload caller ref type)
    return .active material

def payload (caller : Caller) (id : String) : ExceptT Error m Observation := do
  match ← look registry api count caller id with
  | .ready e => fetch api count caller e
  | .pending => return .without .preactivation
  | .failed => return .without .destroyed

def check (caller : Caller) (id : String) : ExceptT Error m Phase := do
  match ← look registry api count caller id with
  | .ready _ => return .activation
  | .pending => return .preactivation
  | .failed => return .destroyed

/-! ## Deletion -/

/-- Deleting a secret is refused while its key is being generated. -/
def stillGenerating : Error :=
  .conflict "Secret generation still in progress. Please try again later." Error.secretResource

/-- The entry with its secret's reference, which the order tells if the entry does not. -/
def settled (caller : Caller) (e : Entry) : ExceptT Error m Entry := do
  match e.pending? with
  | none => return e
  | some orderRef =>
    match ← api.checkOrder caller orderRef with
    | .active secretRef => return { e with secretRef := some secretRef }
    | .pending | .failed _ => throw stillGenerating

/-- Deletes the order of an entry that is gone; if that fails, the order is only counted. -/
def forgetOrder (caller : Caller) (e : Entry) : m Unit := do
  match e.order? with
  | none => return ()
  | some orderRef =>
    match ← (retry count "delete_order" (api.deleteOrder caller orderRef)).run with
    | .ok () => return ()
    | .error _ => count .orphanedOrder

/-- Destroys the material, then gives the identifier up, then clears the order away. -/
def delete (caller : Caller) (id : String) : ExceptT Error m Unit := do
  let e ← settled api caller (← registry.get caller.tenant id)
  if let some ref := e.secret? then api.deleteSecret caller ref
  registry.delete caller.tenant id
  ExceptT.lift (forgetOrder api count caller e)

end Keystore.Networked

def Keystore.networked {m : Type → Type} [Monad m] (registry : Registry m) (api : Barbican m)
    (count : Counter → m Unit) (candidates : Registry.Candidates m) : Keystore m where
  create := Networked.create registry api candidates
  delete := withoutCompensation (Networked.delete registry api count)
  payload := Networked.payload registry api count
  check := Networked.check registry api count

end KeyCustody
