import KeyCustody.Number.Double
import KeyCustody.Settings.Basic
import KeyCustody.Text.Number

/-!
# Values of settings

What files and variables give: values without a type of their own, which are converted to what a
setting needs. Tables are laid over each other entry by entry; any other value replaces what was
there. A path leads to an entry, through tables that are made on the way.
-/

namespace KeyCustody.Settings

inductive Value where
  | nothing
  | flag (b : Bool)
  | whole (n : Int)
  | real (x : Double)
  | text (s : String)
  | list (items : List Value)
  | table (entries : List (String × Value))

namespace Value

def entries : Value → List (String × Value)
  | table es => es
  | _ => []

def items : Value → List Value
  | list vs => vs
  | _ => []

def put (name : String) (v : Value) : List (String × Value) → List (String × Value)
  | [] => [(name, v)]
  | e :: es => if e.1 = name then (name, v) :: es else e :: put name v es

def entry (name : String) (es : List (String × Value)) : Value :=
  (es.lookup name).getD nothing

mutual

/-- A value laid over another. -/
def above : Value → Value → Value
  | table es, below => table (aboveAll es below.entries)
  | nothing, _ => nothing
  | flag b, _ => flag b
  | whole n, _ => whole n
  | real x, _ => real x
  | text s, _ => text s
  | list vs, _ => list vs

/-- Entries laid over those of a table. -/
def aboveAll : List (String × Value) → List (String × Value) → List (String × Value)
  | [], below => below
  | (name, v) :: es, below => aboveAll es (put name (above v (entry name below)) below)

end

/-! ## Paths -/

/-- A step of a path: an entry of a table, or an item of a list. -/
inductive Step where
  | name (s : String)
  | index (n : Int)
  deriving DecidableEq, Repr

def isNameChar (c : Char) : Bool :=
  c.isAlphanum || c = '_' || c = '-'

def maxIndex : Int := 9223372036854775807

/-- The number of an item in brackets, and what follows them: digits after an optional minus sign,
with blanks around. -/
def index? (cs : List Char) : Option (Int × List Char) :=
  let isGap (c : Char) : Bool := c = ' ' || c = '\t'
  let (negative, cs) := match cs.dropWhile isGap with
    | '-' :: cs => (true, cs)
    | cs => (false, cs)
  let digits := cs.takeWhile Char.isDigit
  match (cs.drop digits.length).dropWhile isGap with
  | ']' :: rest => do
    let n : Nat ← Text.digitsValue? digits
    let n : Int := if negative then -n else n
    if -maxIndex - 1 ≤ n ∧ n ≤ maxIndex then some (n, rest) else none
  | _ => none

/-- The steps after the first, each a name after a point or a number in brackets. -/
def steps? : Nat → List Char → Option (List Step)
  | _, [] => some []
  | fuel + 1, '.' :: cs =>
    let name := cs.takeWhile isNameChar
    if name.isEmpty then none
    else (steps? fuel (cs.drop name.length)).map (.name (String.ofList name) :: ·)
  | fuel + 1, '[' :: cs => do
    let (n, rest) ← index? cs
    (steps? fuel rest).map (.index n :: ·)
  | _, _ => none

/-- The path that a text writes: a name, and steps. -/
def path? (text : String) : Option (List Step) :=
  let cs := text.toList
  let name := cs.takeWhile isNameChar
  if name.isEmpty then none
  else (steps? cs.length (cs.drop name.length)).map (.name (String.ofList name) :: ·)

/-- Puts a value in the place of an item; a negative number counts from the end, and a list that is
too short is filled up. -/
def putItem (n : Int) (change : Value → Value) (vs : List Value) : List Value :=
  let vs := if n < 0 then List.replicate ((-n).toNat - vs.length) nothing ++ vs else vs
  let i := if n < 0 then vs.length - (-n).toNat else n.toNat
  let vs := vs ++ List.replicate (i + 1 - vs.length) nothing
  vs.modify i change

/-- Lays a value over what a path leads to. -/
def putAt : List Step → Value → Value → Value
  | [], v, below => above v below
  | .name s :: steps, v, below =>
    table (put s (putAt steps v (entry s below.entries)) below.entries)
  | .index n :: steps, v, below => list (putItem n (putAt steps v) below.items)

/-- Lays one named value over a table. A name that is no path stands for itself. -/
def putNamed (name : String) (v below : Value) : Value :=
  putAt ((path? name).getD [.name name]) v below

/-- Lays the values of a source over a table. -/
def putAll (source : List (String × Value)) (below : Value) : Value :=
  source.foldl (fun below e => putNamed e.1 e.2 below) below

/-! ## Conversions -/

/-- Words that mean yes and no, in any case. -/
def isYes (s : String) : Bool := ["true", "on", "yes"].contains (Text.lower s)
def isNo (s : String) : Bool := ["false", "off", "no"].contains (Text.lower s)

/-- A whole number from zero to `maxNumber`. A fraction is rounded. -/
def toNat? : Value → Option Nat
  | flag b => some (if b then 1 else 0)
  | whole n => if 0 ≤ n then some n.toNat else none
  | real x => some (x.toNat maxNumber)
  | text s => if isYes s then some 1 else if isNo s then some 0 else Text.natural? maxNumber s
  | _ => none

def toCount? (v : Value) : Option Nat :=
  v.toNat?.filter (· ≤ maxCount)

def toBool? : Value → Option Bool
  | flag b => some b
  | whole n => some (n ≠ 0)
  | real x => some (!x.isZero)
  | text s =>
    if isYes s || s = "1" then some true else if isNo s || s = "0" then some false else none
  | _ => none

def toText? : Value → Option String
  | flag b => some (if b then "true" else "false")
  | whole n => some (toString n)
  | real x => some x.write
  | text s => some s
  | _ => none

def toOptionalText? : Value → Option (Option String)
  | nothing => some none
  | v => v.toText?.map some

/-- One of a closed list of names, as a text or as the only name of a table. -/
def toVariant? {α : Type} (named : String → Option α) : Value → Option α
  | text s => named s
  | table [(name, _)] => named name
  | _ => none

/-- The fields of a section: a table, or a list that gives them in order. -/
def fields? (names : List String) : Value → Option (List (String × Value))
  | table es => some es
  | list vs => if names.length ≤ vs.length then some (names.zip vs) else none
  | _ => none

def field? {α : Type} (fields : List (String × Value)) (name : String) (read : Value → Option α) :
    Option α :=
  (fields.lookup name).bind read

end Value

open Value

def Keystore.ofValue? (v : Value) : Option Keystore := do
  let fields ← v.fields? fieldNames
  let kind ← field? fields "backend" (toVariant? KeystoreKind.ofName?)
  let url ← field? fields "url" toText?
  let timeout ← field? fields "request_timeout_seconds" toNat?
  let caPath ← (entry "ca_cert_path" fields).toOptionalText?
  return ⟨kind, url, timeout, caPath⟩

def Database.ofValue? (v : Value) : Option Database := do
  let fields ← v.fields? fieldNames
  let kind ← field? fields "store" (toVariant? RegistryKind.ofName?)
  let url ← field? fields "url" toText?
  let maxConnections ← field? fields "max_connections" toCount?
  let minConnections ← field? fields "min_connections" toCount?
  let connectTimeout ← field? fields "connect_timeout_seconds" toNat?
  let idleTimeout ← field? fields "idle_timeout_seconds" toNat?
  let createsTable ← field? fields "auto_migrate" toBool?
  return ⟨kind, url, maxConnections, minConnections, connectTimeout, idleTimeout, createsTable⟩

def Catalog.ofValue? (v : Value) : Option Catalog := do
  let fields ← v.fields? fieldNames
  let url ← field? fields "url" toText?
  let timeout ← field? fields "timeout_seconds" toNat?
  return ⟨url, timeout⟩

def Logging.ofValue? (v : Value) : Option Logging := do
  let fields ← v.fields? fieldNames
  let serviceName ← field? fields "service_name" toText?
  let level ← field? fields "log_level" toText?
  let asJson ← field? fields "json_logging" toBool?
  let countsEvents ← field? fields "enable_metrics" toBool?
  return ⟨serviceName, level, asJson, countsEvents⟩

/-- The settings that a table of sections gives. -/
def ofValue? (v : Value) : Option Settings := do
  let fields ← v.fields? fieldNames
  let keystore ← field? fields "keystore" Keystore.ofValue?
  let database ← field? fields "database" Database.ofValue?
  let catalog ← field? fields "metadata" Catalog.ofValue?
  let logging ← field? fields "observability" Logging.ofValue?
  return ⟨keystore, database, catalog, logging⟩

/-! ## Settings as values -/

def Keystore.toValue (k : Keystore) : Value :=
  .table [("backend", .text k.kind.name), ("url", .text k.url),
    ("request_timeout_seconds", .whole k.timeout), ("ca_cert_path", k.caPath.elim .nothing .text)]

def Database.toValue (d : Database) : Value :=
  .table [("store", .text d.kind.name), ("url", .text d.url),
    ("max_connections", .whole d.maxConnections), ("min_connections", .whole d.minConnections),
    ("connect_timeout_seconds", .whole d.connectTimeout),
    ("idle_timeout_seconds", .whole d.idleTimeout), ("auto_migrate", .flag d.createsTable)]

def Catalog.toValue (c : Catalog) : Value :=
  .table [("url", .text c.url), ("timeout_seconds", .whole c.timeout)]

def Logging.toValue (l : Logging) : Value :=
  .table [("service_name", .text l.serviceName), ("log_level", .text l.level),
    ("json_logging", .flag l.asJson), ("enable_metrics", .flag l.countsEvents)]

def toValue (s : Settings) : Value :=
  .table [("keystore", s.keystore.toValue), ("database", s.database.toValue),
    ("metadata", s.catalog.toValue), ("observability", s.logging.toValue)]

end KeyCustody.Settings
