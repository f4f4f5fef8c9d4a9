import KeyCustody.Catalog.Basic
import KeyCustody.Catalog.Records
import KeyCustody.Counter
import KeyCustody.Keystore.InMemory
import KeyCustody.Registry.Basic
import KeyCustody.Registry.Store

/-!
# Holdings

All that an engine without a network remembers: the entries of its registry, the records of its
catalog, the material in its vault, and what it has counted. Any computation that carries them along
has a registry, a catalog and a vault.
-/

namespace KeyCustody

structure Holdings where
  store : Registry.Store := .map []
  records : Catalog.Records := []
  material : Vault.Contents := []
  tally : Tally := []

namespace Holdings

variable {m : Type → Type} [Monad m] [MonadStateOf Holdings m]

def onStore {α : Type} (f : Registry.Store → α × Registry.Store) : m α :=
  modifyGet fun h => let (a, store) := f h.store; (a, { h with store := store })

def onRecords {α : Type} (f : Catalog.Records → α × Catalog.Records) : m α :=
  modifyGet fun h => let (a, records) := f h.records; (a, { h with records := records })

def registry : Registry m where
  add tenant e := ExceptT.mk (onStore (·.add tenant e))
  get tenant id := ExceptT.mk do return (← getThe Holdings).store.get tenant id
  update tenant e := ExceptT.mk (onStore (·.update tenant e))
  delete tenant id := ExceptT.mk (onStore (·.delete tenant id))

def catalog (now : m Time.Instant) : Catalog m where
  create caller s := ExceptT.mk do
    let time ← now
    onRecords (·.create caller.tenant time s)
  get caller id := ExceptT.mk do return .ok ((← getThe Holdings).records.get caller.tenant id)
  change caller id c := ExceptT.mk (onRecords (·.change caller.tenant id c))
  delete caller id := ExceptT.mk (onRecords (·.delete caller.tenant id))
  list caller q := ExceptT.mk do return .ok ((← getThe Holdings).records.list caller.tenant q)
  total caller _ := ExceptT.mk do return .ok ((← getThe Holdings).records.total caller.tenant)

def vault : Vault m where
  put ref material := modifyThe Holdings fun h => { h with material := h.material.put ref material }
  find ref := return (← getThe Holdings).material.lookup ref
  drop ref := modifyThe Holdings fun h => { h with material := h.material.drop ref }

def count (c : Counter) : m Unit :=
  modifyThe Holdings fun h => { h with tally := h.tally.add c }

end Holdings

end KeyCustody
