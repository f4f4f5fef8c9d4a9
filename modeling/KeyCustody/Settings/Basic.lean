import KeyCustody.Json.Record
import KeyCustody.Text.Blank
import KeyCustody.Violation

/-!
# Settings

Which keystore, registry and catalog the engine works with, how it reaches them, and what it logs.
All sections have defaults, and limits of their own; some rules tie settings together.
-/

namespace KeyCustody

open Json

namespace Settings

inductive KeystoreKind where
  | barbican
  | memory
  deriving DecidableEq, Repr

namespace KeystoreKind

def name : KeystoreKind → String
  | barbican => "barbican"
  | memory => "memory"

def ofName? (name : String) : Option KeystoreKind :=
  [barbican, memory].find? (·.name = name)

end KeystoreKind

inductive RegistryKind where
  | sql
  | memory
  deriving DecidableEq, Repr

namespace RegistryKind

def name : RegistryKind → String
  | sql => "sql"
  | memory => "memory"

def ofName? (name : String) : Option RegistryKind :=
  [sql, memory].find? (·.name = name)

end RegistryKind

structure Keystore where
  kind : KeystoreKind
  url : String
  /-- How long a request may take, in seconds. -/
  timeout : Nat
  /-- The file with the certificates that are trusted. -/
  caPath : Option String
  deriving DecidableEq, Repr

structure Database where
  kind : RegistryKind
  url : String
  maxConnections : Nat
  minConnections : Nat
  /-- How long connecting may take, in seconds. -/
  connectTimeout : Nat
  /-- How long a connection may be idle, in seconds; zero for ever. -/
  idleTimeout : Nat
  /-- Whether the table is created on connecting. -/
  createsTable : Bool
  deriving DecidableEq, Repr

structure Catalog where
  url : String
  timeout : Nat
  deriving DecidableEq, Repr

structure Logging where
  serviceName : String
  /-- A level, or a whole filter. -/
  level : String
  asJson : Bool
  countsEvents : Bool
  deriving DecidableEq, Repr

end Settings

structure Settings where
  keystore : Settings.Keystore
  database : Settings.Database
  catalog : Settings.Catalog
  logging : Settings.Logging
  deriving DecidableEq, Repr

namespace Settings

def maxNumber : Nat := 18446744073709551615

def maxCount : Nat := 4294967295

namespace Keystore

def defaults : Keystore := ⟨.barbican, "http://localhost:9311", 60, none⟩

def isHttps (k : Keystore) : Bool :=
  (Text.after? "https".toList (Text.lower k.url).toList).isSome

def isWithinLimits (k : Keystore) : Bool :=
  !k.url.isEmpty && 1 ≤ k.timeout && k.timeout ≤ 300

def toJson (k : Keystore) : Json :=
  .object [("backend", .string k.kind.name), ("url", .string k.url),
    ("request_timeout_seconds", .nat k.timeout), ("ca_cert_path", .ofString? k.caPath)]

def fieldNames : List String := ["backend", "url", "request_timeout_seconds", "ca_cert_path"]

def ofJson? (j : Json) : Option Keystore := do
  let fields ← j.record? fieldNames fieldNames.length
  let kind ← field? fields "backend" (variant? KeystoreKind.ofName?) none
  let url ← field? fields "url" asString? none
  let timeout ← field? fields "request_timeout_seconds" (asNat? maxNumber) none
  let caPath ← field? fields "ca_cert_path" (nullable? asString?) (some none)
  return ⟨kind, url, timeout, caPath⟩

end Keystore

namespace Database

def defaults : Database := ⟨.sql, "sqlite://./data/keyward.db", 10, 0, 10, 600, true⟩

def isSqlite (d : Database) : Bool :=
  (Text.after? "sqlite:".toList d.url.toList).isSome

def idleLimit? (d : Database) : Option Nat :=
  if d.idleTimeout = 0 then none else some d.idleTimeout

def isWithinLimits (d : Database) : Bool :=
  !d.url.isEmpty && 1 ≤ d.maxConnections && d.maxConnections ≤ 100 && d.minConnections ≤ 50 &&
    1 ≤ d.connectTimeout && d.connectTimeout ≤ 60

def toJson (d : Database) : Json :=
  .object [("store", .string d.kind.name), ("url", .string d.url),
    ("max_connections", .nat d.maxConnections), ("min_connections", .nat d.minConnections),
    ("connect_timeout_seconds", .nat d.connectTimeout),
    ("idle_timeout_seconds", .nat d.idleTimeout), ("auto_migrate", .bool d.createsTable)]

def fieldNames : List String :=
  ["store", "url", "max_connections", "min_connections", "connect_timeout_seconds",
    "idle_timeout_seconds", "auto_migrate"]

def ofJson? (j : Json) : Option Database := do
  let fields ← j.record? fieldNames fieldNames.length
  let kind ← field? fields "store" (variant? RegistryKind.ofName?) none
  let url ← field? fields "url" asString? none
  let maxConnections ← field? fields "max_connections" (asNat? maxCount) none
  let minConnections ← field? fields "min_connections" (asNat? maxCount) none
  let connectTimeout ← field? fields "connect_timeout_seconds" (asNat? maxNumber) none
  let idleTimeout ← field? fields "idle_timeout_seconds" (asNat? maxNumber) none
  let createsTable ← field? fields "auto_migrate" asBool? none
  return ⟨kind, url, maxConnections, minConnections, connectTimeout, idleTimeout, createsTable⟩

end Database

namespace Catalog

def defaults : Catalog := ⟨"http://localhost:8090", 30⟩

def isWithinLimits (c : Catalog) : Bool :=
  !c.url.isEmpty && 1 ≤ c.timeout && c.timeout ≤ 300

def toJson (c : Catalog) : Json :=
  .object [("url", .string c.url), ("timeout_seconds", .nat c.timeout)]

def fieldNames : List String := ["url", "timeout_seconds"]

def ofJson? (j : Json) : Option Catalog := do
  let fields ← j.record? fieldNames fieldNames.length
  let url ← field? fields "url" asString? none
  let timeout ← field? fields "timeout_seconds" (asNat? maxNumber) none
  return ⟨url, timeout⟩

end Catalog

namespace Logging

def defaults : Logging := ⟨"keyward", "info", false, true⟩

def isWithinLimits (l : Logging) : Bool :=
  !l.serviceName.isEmpty && !l.level.isEmpty

def toJson (l : Logging) : Json :=
  .object [("service_name", .string l.serviceName), ("log_level", .string l.level),
    ("json_logging", .bool l.asJson), ("enable_metrics", .bool l.countsEvents)]

def fieldNames : List String := ["service_name", "log_level", "json_logging", "enable_metrics"]

def ofJson? (j : Json) : Option Logging := do
  let fields ← j.record? fieldNames fieldNames.length
  let serviceName ← field? fields "service_name" asString? none
  let level ← field? fields "log_level" asString? none
  let asJson ← field? fields "json_logging" asBool? none
  let countsEvents ← field? fields "enable_metrics" asBool? none
  return ⟨serviceName, level, asJson, countsEvents⟩

end Logging

def defaults : Settings := ⟨.defaults, .defaults, .defaults, .defaults⟩

def toJson (s : Settings) : Json :=
  .object [("keystore", s.keystore.toJson), ("database", s.database.toJson),
    ("metadata", s.catalog.toJson), ("observability", s.logging.toJson)]

def fieldNames : List String := ["keystore", "database", "metadata", "observability"]

def ofJson? (j : Json) : Option Settings := do
  let fields ← j.record? fieldNames fieldNames.length
  let keystore ← field? fields "keystore" Keystore.ofJson? none
  let database ← field? fields "database" Database.ofJson? none
  let catalog ← field? fields "metadata" Catalog.ofJson? none
  let logging ← field? fields "observability" Logging.ofJson? none
  return ⟨keystore, database, catalog, logging⟩

/-- Settings that write only the sections, and in these only the fields, that differ from the
default ones. A section that is no object stands for all of itself. -/
def ofDifferences? : Json → Option Settings
  | .object sections =>
    let merged := sections.map fun (name, top) =>
      match defaults.toJson.member? name, top with
      | some base, .object _ => (name, base.overlay top)
      | _, top => (name, top)
    ofJson? (defaults.toJson.overlay (.object merged))
  | _ => some defaults

/-! ## Validation -/

/-- Whether every section keeps its own limits. -/
def isWithinLimits (s : Settings) : Bool :=
  s.keystore.isWithinLimits && s.database.isWithinLimits && s.catalog.isWithinLimits &&
    s.logging.isWithinLimits

def begins (start text : String) : Bool :=
  (Text.after? start.toList text.toList).isSome

/-- The first rule that the settings break, if any. Which limit of a section is broken is not said.
-/
def fault? (s : Settings) : Option Error :=
  if !s.isWithinLimits then some (Violation.report [])
  else if s.keystore.kind = .barbican ∧
      !(begins "http://" s.keystore.url || begins "https://" s.keystore.url) then
    some (.validation "Keystore URL must start with 'http://' or 'https://'" none)
  else if s.keystore.kind = .barbican ∧ s.keystore.isHttps ∧ s.keystore.caPath.isNone then
    some (.validation "An HTTPS keystore URL requires keystore.ca_cert_path" none)
  else if s.database.kind = .sql ∧ !s.database.isSqlite then
    some (.validation "Database URL must start with 'sqlite:'" none)
  else if s.database.maxConnections < s.database.minConnections then
    some (.validation "min_connections cannot be greater than max_connections" none)
  else none

def validate (s : Settings) : Except Error Unit :=
  match s.fault? with
  | some error => .error error
  | none => .ok ()

end Settings

end KeyCustody
