import KeyCustody.Keystore.Basic
import KeyCustody.Keystore.Generation
import KeyCustody.Registry.Basic
import KeyCustody.Text.Base64

/-!
# A keystore in memory

Material is kept in a vault, under references made up here. Generated material is there at once, so
every secret starts active. Nothing is tried twice.
-/

namespace KeyCustody

structure Vault (m : Type → Type) where
  put : String → Sealed → m Unit
  find : String → m (Option Sealed)
  drop : String → m Unit

abbrev Vault.Contents := List (String × Sealed)

namespace Vault.Contents

def put (ref : String) (material : Sealed) (v : Contents) : Contents :=
  (ref, material) :: v.filter (·.1 ≠ ref)

def drop (ref : String) (v : Contents) : Contents :=
  v.filter (·.1 ≠ ref)

end Vault.Contents

/-- Values that were never seen before: references, and random bytes. -/
structure Fresh (m : Type → Type) where
  reference : m String
  bytes : Nat → m (List UInt8)

namespace Keystore.InMemory

open Registry (Entry Candidates)

variable {m : Type → Type} [Monad m] (registry : Registry m) (vault : Vault m) (fresh : Fresh m)
  (candidates : Candidates m)

/-- As many random bytes as a key of this length takes, in base64. -/
def generate (bitLength : Nat) : m Sealed :=
  return ⟨Text.Base64.encode (← fresh.bytes ((bitLength + 7) / 8))⟩

/-- Keeps material under a new reference and issues an identifier for it. -/
def keep (caller : Caller) (s : Secret) (material : Sealed) (ledger : Ledger m) :
    m (Creation m) := do
  let ref ← fresh.reference
  vault.put ref material
  let ledger := ledger.enter ⟨"delete memory material", ExceptT.lift (vault.drop ref)⟩
  match ← (registry.allocate candidates caller.tenant (.ofSecret ref)).run with
  | .error error => return ⟨.error error, s, ledger⟩
  | .ok id =>
    let ledger := ledger.enter ⟨"delete translation row", registry.delete caller.tenant id⟩
    return ⟨.ok id, s.enter inUse, ledger⟩

def create (caller : Caller) (s : Secret) (ledger : Ledger m) : m (Creation m) := do
  match s.material? with
  | some material => keep registry vault fresh candidates caller s material ledger
  | none =>
    match s.keyParameters with
    | .error error => return ⟨.error error, s.withKeyDefaults, ledger⟩
    | .ok key =>
      let material ← generate fresh key.bitLength
      keep registry vault fresh candidates caller s.withKeyDefaults material ledger

/-- The reference of an identifier; an entry without one counts as missing. -/
def reference (caller : Caller) (id : String) : ExceptT Error m String := do
  let e ← registry.get caller.tenant id
  match e.secret? with
  | some ref => return ref
  | none => throw (.noSecret id)

def delete (caller : Caller) (id : String) : ExceptT Error m Unit := do
  let ref ← reference registry caller id
  vault.drop ref
  registry.delete caller.tenant id

def payload (caller : Caller) (id : String) : ExceptT Error m Observation := do
  let ref ← reference registry caller id
  match ← vault.find ref with
  | some material => return .active material
  | none => throw (.noSecret id)

def check (caller : Caller) (id : String) : ExceptT Error m Phase := do
  let ref ← reference registry caller id
  match ← vault.find ref with
  | some _ => return .activation
  | none => return .destroyed

end Keystore.InMemory

def Keystore.inMemory {m : Type → Type} [Monad m] (registry : Registry m) (vault : Vault m)
    (fresh : Fresh m) (candidates : Registry.Candidates m) : Keystore m where
  create := InMemory.create registry vault fresh candidates
  delete := withoutCompensation (InMemory.delete registry vault)
  payload := InMemory.payload registry vault
  check := InMemory.check registry vault

end KeyCustody
