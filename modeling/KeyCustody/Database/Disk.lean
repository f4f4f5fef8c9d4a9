import KeyCustody.Database.Disk.Basic
import KeyCustody.Database.Pool
import KeyCustody.Registry.Store

/-!
# Pools on a disk

A request finds the database it asks for among those that are open, or opens it. The connections of
a pool take turns, which shows where each has a database of its own.
-/

namespace KeyCustody.Database.Disk

def registryTable : String := "secret_id_translations"

/-! ## Opening -/

def memoryName : List UInt8 := Request.bytes ":memory:"

/-- Whether everyone finds a database of the layer in memory under its name. -/
def isPublic (name : List UInt8) : Bool :=
  1 < name.length && (name.head? = some 47 || name.head? = some 92)

/-- An open database that is shared with those who open it alike. -/
def shared? (layer : Layer) (place : Place) (d : Disk) : Option Nat :=
  ((d.openAt place).find? fun (b, _) => b.isShared && b.layer = layer).map (·.2)

/-- The file at a place, which is created if it is missing and may be. -/
def obtain (r : Request) (place : Place) : Task Stored := do
  let d ← get
  match d.files.lookup place with
  | some file => return file
  | none =>
    match d.sideFile? place with
    | some isWritten => require !isWritten
    | none => require (r.mode = .creating || r.layer = .memory)
    set (d.put place .blank)
    return .blank

/-- Opens the file at a place. If it is frozen, its log is not looked at. -/
def openFile (r : Request) (place : Place) : Task Nat := do
  let file ← obtain r place
  let readOnly : Bool := r.mode = .reading
  if r.isFrozen then
    addBase ⟨some place, r.isShared, r.layer, true, true, false, some file.tables⟩
  else
    clean place file readOnly
    addBase ⟨some place, r.isShared, r.layer, readOnly, r.isUnlocked, false, none⟩

def openMemory (r : Request) : Task Source := do
  let readOnly : Bool := r.mode = .reading
  let base (place : Option Place) : Base :=
    ⟨place, true, r.layer, readOnly, false, false, some []⟩
  match r.name with
  | none => if r.isShared then .common <$> addBase (base none) else return .separate readOnly []
  | some name =>
    if r.isShared && r.isAddress && !name.isEmpty then
      match (← get).shared? r.layer (.named name) with
      | some i => return .common i
      | none => .common <$> addBase (base (some (.named name)))
    else return .separate readOnly []

def source (r : Request) : Task Source := do
  let name := r.name.getD []
  if r.inMemory || name = memoryName then openMemory r
  else if name.isEmpty then return .separate (r.mode = .reading) []
  else if r.layer = .memory && !isPublic name && !r.isShared then
    return .separate (r.mode = .reading || r.isFrozen) []
  else
    let d ← get
    let place ← if r.layer = .memory then pure (Place.named name)
      else give (Place.ofPath? d.isFile name)
    let found := if r.isShared then d.shared? r.layer place else none
    let i ← match found with
      | some i => pure i
      | none => openFile r place
    settle i
    return .common i

/-- How many connections take turns in a pool, and which comes first. One that is in use comes back
too late for the next, which gets another if there may be two. -/
def turns (d : Settings.Database) : Nat × Nat :=
  if 2 ≤ d.minConnections then (d.minConnections, 1)
  else if 2 ≤ d.maxConnections then (2, 0)
  else (1, 0)

def connect (d : Settings.Database) (l : Location) : Task Nat := do
  require (d.connectTimeout ≠ 0)
  let source ← source (← give (Request.ofLocation? l))
  if 2 ≤ d.minConnections then
    if let .common i := source then settle i
  let (size, turn) := turns d
  addPool ⟨source, size, turn, false⟩

/-! ## Use -/

/-- Does something with the connection whose turn it is: with an open database, or with the tables
of its own, and whether they are only read. -/
def use {α : Type} (pool : Nat) (common : Nat → Task α)
    (separate : Bool → List String → Option (α × List String)) : Task α := do
  let d ← get
  let p ← give d.pools[pool]?
  require !p.isClosed
  let next := { p with turn := p.turn + 1 }
  set { d with pools := d.pools.set pool next }
  match p.source with
  | .common i => common i
  | .separate readOnly tables =>
    let connection := p.turn % p.size
    let (a, own) ← give (separate readOnly ((tables.lookup connection).getD []))
    let tables := (connection, own) :: tables.filter (·.1 ≠ connection)
    set { d with pools := d.pools.set pool { next with source := .separate readOnly tables } }
    return a

/-- The tables that a pool sees, unless it is closed. -/
def tables (pool : Nat) : Task (List String) :=
  use pool read fun _ tables => some (tables, tables)

def createTable (table : String) (pool : Nat) : Task Unit :=
  use pool (create table) fun readOnly tables =>
    if tables.contains table then some ((), tables)
    else if readOnly then none
    else some ((), table :: tables)

def ping (pool : Nat) : Task Unit :=
  use pool (fun _ => pure ()) fun _ tables => some ((), tables)

def isClosed (d : Disk) (pool : Nat) : Bool :=
  d.pools[pool]?.all (·.isClosed)

/-- Closes a pool, and what nobody else has open. -/
def close (pool : Nat) (d : Disk) : Disk :=
  if d.isClosed pool then d
  else
    let closed := { d with pools := d.pools.modify pool fun p => { p with isClosed := true } }
    match d.pools[pool]? with
    | some ⟨.common i, _, _, _⟩ => closed.release i
    | _ => closed

def retain (held : List (Option Nat)) (d : Disk) : Disk :=
  (List.range d.pools.length).foldl (fun d i => if held.contains (some i) then d else d.close i) d

def sqlite : Sqlite (StateM Disk) Nat where
  connect d l := (connect d l).run
  isClosed pool := return (← get).isClosed pool
  ping pool := return (← (ping pool).run).isSome
  createTable pool := return (← (createTable registryTable pool).run).isSome

/-- The registry that the settings ask for, new, on a disk that was empty. -/
def newStore (d : Settings.Database) : Except Error Registry.Store := do
  match d.kind with
  | .memory => return .map []
  | .sql =>
    let ((opened, _), disk) := (sharedPool sqlite none d).run empty
    let (seen, _) := (tables (← opened)).run.run disk
    return .table ((seen.getD []).contains registryTable) []

end KeyCustody.Database.Disk
