import KeyCustody.Proofs.Settings.Names
import KeyCustody.Proofs.Settings.Value

/-!
# Single settings

A leaf is one field of one section. Settings can be read from a value exactly if every leaf can, and are then made up of
what the leaves are read as.
-/

namespace KeyCustody.Settings

open Value

inductive Leaf where
  | keystoreKind
  | keystoreUrl
  | keystoreTimeout
  | caPath
  | registryKind
  | databaseUrl
  | maxConnections
  | minConnections
  | connectTimeout
  | idleTimeout
  | createsTable
  | catalogUrl
  | catalogTimeout
  | serviceName
  | level
  | asJson
  | countsEvents
  deriving DecidableEq, Repr

namespace Leaf

def part : Leaf → String
  | keystoreKind | keystoreUrl | keystoreTimeout | caPath => "keystore"
  | registryKind | databaseUrl | maxConnections | minConnections => "database"
  | connectTimeout | idleTimeout | createsTable => "database"
  | catalogUrl | catalogTimeout => "metadata"
  | serviceName | level | asJson | countsEvents => "observability"

def name : Leaf → String
  | keystoreKind => "backend"
  | keystoreUrl | databaseUrl | catalogUrl => "url"
  | keystoreTimeout => "request_timeout_seconds"
  | caPath => "ca_cert_path"
  | registryKind => "store"
  | maxConnections => "max_connections"
  | minConnections => "min_connections"
  | connectTimeout => "connect_timeout_seconds"
  | idleTimeout => "idle_timeout_seconds"
  | createsTable => "auto_migrate"
  | catalogTimeout => "timeout_seconds"
  | serviceName => "service_name"
  | level => "log_level"
  | asJson => "json_logging"
  | countsEvents => "enable_metrics"

/-- The name of the variable that sets a leaf. -/
def variableName (l : Leaf) : String :=
  Variables.nameOf l.part l.name

def Kind : Leaf → Type
  | keystoreKind => KeystoreKind
  | registryKind => RegistryKind
  | keystoreUrl | databaseUrl | catalogUrl | serviceName | level => String
  | caPath => Option String
  | keystoreTimeout | maxConnections | minConnections | connectTimeout | idleTimeout | catalogTimeout => Nat
  | createsTable | asJson | countsEvents => Bool

instance : (l : Leaf) → DecidableEq l.Kind
  | keystoreKind => inferInstanceAs (DecidableEq KeystoreKind)
  | registryKind => inferInstanceAs (DecidableEq RegistryKind)
  | keystoreUrl | databaseUrl | catalogUrl | serviceName | level => inferInstanceAs (DecidableEq String)
  | caPath => inferInstanceAs (DecidableEq (Option String))
  | keystoreTimeout | maxConnections | minConnections => inferInstanceAs (DecidableEq Nat)
  | connectTimeout | idleTimeout | catalogTimeout => inferInstanceAs (DecidableEq Nat)
  | createsTable | asJson | countsEvents => inferInstanceAs (DecidableEq Bool)

def read : (l : Leaf) → Value → Option l.Kind
  | keystoreKind => toVariant? KeystoreKind.ofName?
  | registryKind => toVariant? RegistryKind.ofName?
  | keystoreUrl | databaseUrl | catalogUrl | serviceName | level => toText?
  | caPath => toOptionalText?
  | maxConnections | minConnections => toCount?
  | keystoreTimeout | connectTimeout | idleTimeout | catalogTimeout => toNat?
  | createsTable | asJson | countsEvents => toBool?

def get : (l : Leaf) → Settings → l.Kind
  | keystoreKind, s => s.keystore.kind
  | keystoreUrl, s => s.keystore.url
  | keystoreTimeout, s => s.keystore.timeout
  | caPath, s => s.keystore.caPath
  | registryKind, s => s.database.kind
  | databaseUrl, s => s.database.url
  | maxConnections, s => s.database.maxConnections
  | minConnections, s => s.database.minConnections
  | connectTimeout, s => s.database.connectTimeout
  | idleTimeout, s => s.database.idleTimeout
  | createsTable, s => s.database.createsTable
  | catalogUrl, s => s.catalog.url
  | catalogTimeout, s => s.catalog.timeout
  | serviceName, s => s.logging.serviceName
  | level, s => s.logging.level
  | asJson, s => s.logging.asJson
  | countsEvents, s => s.logging.countsEvents

/-! ## Names -/

theorem isKey (l : Leaf) : IsKey l.part ∧ IsKey l.name := by
  cases l <;> decide +kernel

theorem settingName?_variableName (l : Leaf) : Variables.settingName? l.variableName = some (l.part ++ "." ++ l.name) :=
  Variables.settingName?_nameOf l.isKey.1 l.isKey.2

theorem path?_eq (l : Leaf) : path? (l.part ++ "." ++ l.name) = some [.name l.part, .name l.name] :=
  path?_field l.isKey.1 l.isKey.2

theorem variableName_eq_iff {l l' : Leaf} : l.variableName = l'.variableName ↔ l.part = l'.part ∧ l.name = l'.name :=
  Variables.nameOf_inj l.isKey.1 l.isKey.2 l'.isKey.1 l'.isKey.2

/-! ## Reading -/

theorem read_default (l : Leaf) : l.read (fieldOf l.part l.name defaults.toValue) = some (l.get defaults) := by
  cases l <;> rfl

/-- Over a value that is no table, a value is read as by itself. -/
theorem read_above (l : Leaf) {v below : Value} (once : (v.entries.map (·.1)).Nodup) (plain : below.entries = []) :
    l.read (above v below) = l.read v := by
  cases v with
  | table es =>
    -- Only kinds are read off tables, and they by the names alone.
    have names : (aboveAll es below.entries).map (·.1) = es.map (·.1) := plain ▸ names_aboveAll [] once
    rw [above]
    cases l
    case keystoreKind => exact toVariant?_congr names
    case registryKind => exact toVariant?_congr names
    all_goals rfl
  | _ => rw [above]

theorem read_above_default (l : Leaf) {v : Value} (once : (v.entries.map (·.1)).Nodup) :
    l.read (above v (fieldOf l.part l.name defaults.toValue)) = l.read v :=
  l.read_above once (by cases l <;> rfl)

end Leaf

namespace Value

theorem field?_eq {α : Type} {fields : List (String × Value)} {name : String} (read : Value → Option α)
    (needed : read nothing = none) : field? fields name read = read (entry name fields) := by
  rw [field?, entry]
  cases fields.lookup name with
  | none => exact needed.symm
  | some v => rfl

end Value

/-! ## Sections -/

variable {v : Value} {s : Settings}

theorem Keystore.ofValue?_eq_some_iff {k : Keystore} (isTable : ∃ fields, v = .table fields) :
    Keystore.ofValue? v = some k ↔
      toVariant? KeystoreKind.ofName? (entry "backend" v.entries) = some k.kind ∧
      toText? (entry "url" v.entries) = some k.url ∧
      toNat? (entry "request_timeout_seconds" v.entries) = some k.timeout ∧
      toOptionalText? (entry "ca_cert_path" v.entries) = some k.caPath := by
  obtain ⟨fields, rfl⟩ := isTable
  simp only [Keystore.ofValue?, fields?, entries, field?_eq (toVariant? _) rfl, field?_eq toText? rfl,
    field?_eq toNat? rfl, Option.bind_eq_bind, Option.bind_some, Option.bind_eq_some_iff, Option.pure_def,
    Option.some.injEq]
  constructor
  · rintro ⟨kind, asKind, url, asUrl, timeout, asTimeout, caPath, asPath, rfl⟩
    exact ⟨asKind, asUrl, asTimeout, asPath⟩
  · rintro ⟨asKind, asUrl, asTimeout, asPath⟩
    exact ⟨_, asKind, _, asUrl, _, asTimeout, _, asPath, rfl⟩

theorem Database.ofValue?_eq_some_iff {d : Database} (isTable : ∃ fields, v = .table fields) :
    Database.ofValue? v = some d ↔
      toVariant? RegistryKind.ofName? (entry "store" v.entries) = some d.kind ∧
      toText? (entry "url" v.entries) = some d.url ∧
      toCount? (entry "max_connections" v.entries) = some d.maxConnections ∧
      toCount? (entry "min_connections" v.entries) = some d.minConnections ∧
      toNat? (entry "connect_timeout_seconds" v.entries) = some d.connectTimeout ∧
      toNat? (entry "idle_timeout_seconds" v.entries) = some d.idleTimeout ∧
      toBool? (entry "auto_migrate" v.entries) = some d.createsTable := by
  obtain ⟨fields, rfl⟩ := isTable
  simp only [Database.ofValue?, fields?, entries, field?_eq (toVariant? _) rfl, field?_eq toText? rfl,
    field?_eq toCount? rfl, field?_eq toNat? rfl, field?_eq toBool? rfl,
    Option.bind_eq_bind, Option.bind_some, Option.bind_eq_some_iff, Option.pure_def, Option.some.injEq]
  constructor
  · rintro ⟨kind, asKind, url, asUrl, most, asMost, least, asLeast, connect, asConnect, idle, asIdle, creates, asCreates,
      rfl⟩
    exact ⟨asKind, asUrl, asMost, asLeast, asConnect, asIdle, asCreates⟩
  · rintro ⟨asKind, asUrl, asMost, asLeast, asConnect, asIdle, asCreates⟩
    exact ⟨_, asKind, _, asUrl, _, asMost, _, asLeast, _, asConnect, _, asIdle, _, asCreates, rfl⟩

theorem Catalog.ofValue?_eq_some_iff {c : Catalog} (isTable : ∃ fields, v = .table fields) :
    Catalog.ofValue? v = some c ↔
      toText? (entry "url" v.entries) = some c.url ∧ toNat? (entry "timeout_seconds" v.entries) = some c.timeout := by
  obtain ⟨fields, rfl⟩ := isTable
  simp only [Catalog.ofValue?, fields?, entries, field?_eq toText? rfl, field?_eq toNat? rfl,
    Option.bind_eq_bind, Option.bind_some, Option.bind_eq_some_iff, Option.pure_def, Option.some.injEq]
  constructor
  · rintro ⟨url, asUrl, timeout, asTimeout, rfl⟩
    exact ⟨asUrl, asTimeout⟩
  · rintro ⟨asUrl, asTimeout⟩
    exact ⟨_, asUrl, _, asTimeout, rfl⟩

theorem Logging.ofValue?_eq_some_iff {l : Logging} (isTable : ∃ fields, v = .table fields) :
    Logging.ofValue? v = some l ↔
      toText? (entry "service_name" v.entries) = some l.serviceName ∧
      toText? (entry "log_level" v.entries) = some l.level ∧
      toBool? (entry "json_logging" v.entries) = some l.asJson ∧
      toBool? (entry "enable_metrics" v.entries) = some l.countsEvents := by
  obtain ⟨fields, rfl⟩ := isTable
  simp only [Logging.ofValue?, fields?, entries, field?_eq toText? rfl, field?_eq toBool? rfl,
    Option.bind_eq_bind, Option.bind_some, Option.bind_eq_some_iff, Option.pure_def, Option.some.injEq]
  constructor
  · rintro ⟨service, asService, level, asLevel, json, asJson, counts, asCounts, rfl⟩
    exact ⟨asService, asLevel, asJson, asCounts⟩
  · rintro ⟨asService, asLevel, asJson, asCounts⟩
    exact ⟨_, asService, _, asLevel, _, asJson, _, asCounts, rfl⟩

theorem ofValue?_eq_some_iff (sectioned : Sectioned v) :
    ofValue? v = some s ↔ ∀ l : Leaf, l.read (fieldOf l.part l.name v) = some (l.get s) := by
  obtain ⟨sections, rfl, tables⟩ := sectioned
  simp only [ofValue?, fields?, field?_eq Keystore.ofValue? rfl, field?_eq Database.ofValue? rfl,
    field?_eq Catalog.ofValue? rfl, field?_eq Logging.ofValue? rfl, Option.bind_eq_bind,
    Option.bind_some, Option.bind_eq_some_iff, Option.pure_def, Option.some.injEq,
    Keystore.ofValue?_eq_some_iff (tables "keystore" (by decide)),
    Database.ofValue?_eq_some_iff (tables "database" (by decide)),
    Catalog.ofValue?_eq_some_iff (tables "metadata" (by decide)),
    Logging.ofValue?_eq_some_iff (tables "observability" (by decide))]
  constructor
  · rintro ⟨keystore, ⟨backend, url, timeout, caPath⟩, database, ⟨store, databaseUrl, most, least, connect, idle, creates⟩,
      catalog, ⟨catalogUrl, catalogTimeout⟩, logging, ⟨service, level, json, counts⟩, rfl⟩ l
    cases l <;> assumption
  · intro h
    exact ⟨_, ⟨h .keystoreKind, h .keystoreUrl, h .keystoreTimeout, h .caPath⟩,
      _, ⟨h .registryKind, h .databaseUrl, h .maxConnections, h .minConnections, h .connectTimeout, h .idleTimeout,
        h .createsTable⟩,
      _, ⟨h .catalogUrl, h .catalogTimeout⟩, _, ⟨h .serviceName, h .level, h .asJson, h .countsEvents⟩, rfl⟩

end KeyCustody.Settings
