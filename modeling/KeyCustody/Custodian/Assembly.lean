import KeyCustody.Barbican.Rest
import KeyCustody.Catalog.Rest
import KeyCustody.Custodian
import KeyCustody.Keystore.InMemory
import KeyCustody.Keystore.Networked
import KeyCustody.Settings.Basic
import KeyCustody.Trust.Bundle

/-!
# Assembly

A custodian put together from settings: the keystore and the registry of the kinds they name, and
the catalog behind the address they give. Nothing is sent while it is put together.
-/

namespace KeyCustody

structure Surroundings (m : Type → Type) where
  network : Http.Network m
  /-- The text of a file, if it can be read. -/
  fileText : String → m (Option String)
  /-- The registry that the settings of the database ask for. -/
  openRegistry : Settings.Database → ExceptT Error m (Registry m)
  vault : Vault m
  fresh : Fresh m
  candidates : Registry.Candidates m
  now : m Time.Instant
  count : Counter → m Unit

namespace Surroundings

variable {m : Type → Type} [Monad m] (s : Surroundings m)

/-- Where the API is. If requests to it are encrypted, certificates to trust have to be there. -/
def connectBarbican (k : Settings.Keystore) : ExceptT Error m Http.Endpoint := do
  if k.isHttps then
    match k.caPath with
    | none => throw (.config "HTTPS is not configured: keystore.ca_cert_path is required")
    | some path =>
      match ← s.fileText path with
      | none => throw (.config ("Failed to read CA bundle at " ++ path))
      | some bundle =>
        if !Trust.isBundle bundle then throw (.config "Failed to create HTTP client")
  return .ofUrl k.url

def keystore (k : Settings.Keystore) (registry : Registry m) : ExceptT Error m (Keystore m) := do
  match k.kind with
  | .barbican =>
    let endpoint ← s.connectBarbican k
    return .networked registry (.overHttp s.network endpoint) s.count s.candidates
  | .memory => return .inMemory registry s.vault s.fresh s.candidates

/-- The custodian of valid settings. The registry is opened before the keystore. -/
def custodian (settings : Settings) : ExceptT Error m (Custodian m) := do
  settings.validate
  let registry ← s.openRegistry settings.database
  let keystore ← s.keystore settings.keystore registry
  return ⟨keystore, .overHttp s.network (.ofUrl settings.catalog.url), s.now, s.count⟩

end Surroundings

end KeyCustody
