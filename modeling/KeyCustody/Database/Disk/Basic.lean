import KeyCustody.Database.Place
import KeyCustody.Database.Request

/-!
# Databases on a disk

The databases in the files of a directory and in memory, and those that are open. What is written to
a file goes to a log beside it, where the layer has logs. The log is put into the file when the last
one closes it who could write to it; until then, who does not look at the log sees the file as it
was.
-/

namespace KeyCustody.Database

/-- What has been written to a file, but not put into it. -/
structure Log where
  /-- The tables of the file with the log. -/
  tables : List String
  isWritten : Bool
  hasIndex : Bool

structure Stored where
  /-- The tables in the file itself. -/
  tables : List String
  isLogged : Bool
  log : Option Log

namespace Stored

def blank : Stored := ⟨[], false, none⟩

def isBlank (f : Stored) : Bool :=
  f.tables.isEmpty && !f.isLogged

end Stored

structure Base where
  /-- What it is found under, or `none` if it is not to be found. -/
  place : Option Place
  isShared : Bool
  layer : Layer
  readOnly : Bool
  isUnlocked : Bool
  /-- Whether it takes part in the log of its file. -/
  isJoined : Bool
  /-- The tables of one in memory, and of one that does not change. -/
  tables : Option (List String)

/-- Whether changes go to a log where that can be chosen. -/
def Base.hasLog (b : Base) : Bool :=
  !b.isUnlocked && (b.layer = .usual || b.layer = .exclusive)

/-- What the connections of a pool lead to: one open database, or each to one of its own. -/
inductive Source where
  | common (base : Nat)
  | separate (readOnly : Bool) (tables : List (Nat × List String))
  deriving DecidableEq

structure OpenPool where
  source : Source
  size : Nat
  turn : Nat
  isClosed : Bool

structure Disk where
  files : List (Place × Stored)
  bases : List Base
  pools : List OpenPool

/-- What is done to a disk, if it can be done. -/
abbrev Disk.Task := OptionT (StateM Disk)

namespace Disk

def empty : Disk := ⟨[], [], []⟩

def put (place : Place) (file : Stored) (d : Disk) : Disk :=
  { d with files := (place, file) :: d.files.filter (·.1 ≠ place) }

def erase (place : Place) (d : Disk) : Disk :=
  { d with files := d.files.filter (·.1 ≠ place) }

def putBase (i : Nat) (b : Base) (d : Disk) : Disk :=
  { d with bases := d.bases.set i b }

def give {α : Type} : Option α → Task α
  | some a => pure a
  | none => failure

def require (condition : Bool) : Task Unit :=
  if condition then pure () else failure

/-! ## Files that stand beside others -/

def logSuffix : List UInt8 := Request.bytes "-wal"
def indexSuffix : List UInt8 := Request.bytes "-shm"
def journalSuffix : List UInt8 := Request.bytes "-journal"
def lockSuffix : List UInt8 := Request.bytes ".lock"

/-- The log, or the index of one, that is the file at a place; whether there is anything in it. -/
def sideFile? (d : Disk) (place : Place) : Option Bool :=
  d.files.findSome? fun (owner, file) =>
    match file.log with
    | none => none
    | some log =>
      if owner.beside logSuffix = place then some log.isWritten
      else if log.hasIndex && owner.beside indexSuffix = place then some true
      else none

def isFile (d : Disk) (place : Place) : Bool :=
  (d.files.lookup place).isSome || (d.sideFile? place).isSome

/-- Removes what was left beside a file that is about to be read: a journal, and of a blank file the
log too. A file that is only read cannot be mended from a journal. -/
def clean (place : Place) (file : Stored) (readOnly : Bool) : Task Unit := do
  let journal := place.beside journalSuffix
  if (← get).isFile journal then
    require (!readOnly || file.isBlank)
    if !readOnly then modify fun d => d.erase journal
  if file.isBlank then modify fun d => d.erase (place.beside logSuffix)

/-! ## Open databases -/

def isLive (d : Disk) (i : Nat) : Bool :=
  d.pools.any fun p => !p.isClosed && p.source = .common i

/-- The databases that are open at a place, and where they are among all. -/
def openAt (d : Disk) (place : Place) : List (Base × Nat) :=
  d.bases.zipIdx.filter fun (b, i) => d.isLive i && b.place = some place

def addBase (b : Base) : Task Nat := do
  let d ← get
  set { d with bases := d.bases ++ [b] }
  return d.bases.length

def addPool (p : OpenPool) : Task Nat := do
  let d ← get
  set { d with pools := d.pools ++ [p] }
  return d.pools.length

/-- The tables of an open database. Who reads a file that has a log takes part in the log; its index
takes the place of any file of that name. -/
def read (i : Nat) : Task (List String) := do
  let d ← get
  let b ← give d.bases[i]?
  match b.tables with
  | some tables => return tables
  | none =>
    let place ← give b.place
    let file ← give (d.files.lookup place)
    require (b.layer ≠ .dotted || b.isUnlocked || place.fits lockSuffix.length)
    if !file.isLogged then return file.tables
    require b.hasLog
    let log := file.log.getD ⟨file.tables, false, b.layer ≠ .exclusive⟩
    if log.hasIndex then modify fun d => d.erase (place.beside indexSuffix)
    modify fun d => d.put place { file with log := some log }
    modify fun d => d.putBase i { b with isJoined := true }
    return log.tables

/-- Adds a table unless it is there. What goes into a file itself needs a journal beside it. -/
def create (table : String) (i : Nat) : Task Unit := do
  let tables ← read i
  if !tables.contains table then
    let d ← get
    let b ← give d.bases[i]?
    require (!b.readOnly)
    if b.tables.isSome then set (d.putBase i { b with tables := some (table :: tables) })
    else
      let place ← give b.place
      let file ← give (d.files.lookup place)
      match file.log with
      | some log =>
        let log := { log with tables := table :: tables, isWritten := true }
        set (d.put place { file with log := some log })
      | none =>
        require (place.fits journalSuffix.length)
        set (d.put place { file with tables := table :: tables })

/-- Reads a database for the first time, and makes its file one with a log if that can be. -/
def settle (i : Nat) : Task Unit := do
  let _ ← read i
  let d ← get
  let b ← give d.bases[i]?
  if b.tables.isNone && b.hasLog then
    let place ← give b.place
    let file ← give (d.files.lookup place)
    if !file.isLogged then
      require (!b.readOnly && place.fits journalSuffix.length)
      set (d.put place { file with isLogged := true })

/-- What is left of a database when no pool leads to it: the log goes into the file if nobody else
takes part in it, and what had a name in memory is gone. -/
def release (i : Nat) (d : Disk) : Disk :=
  let change : Option Disk := do
    let b ← d.bases[i]?
    let place ← b.place
    let file ← d.files.lookup place
    let others := (d.openAt place).filter (·.2 ≠ i)
    if d.isLive i then none
    else if b.layer = .memory then if others.isEmpty then some (d.erase place) else none
    else
      let log ← file.log
      if b.isJoined && !b.readOnly && !others.any (·.1.isJoined) then
        some (d.put place { file with tables := log.tables, log := none })
      else none
  change.getD d

end Disk

end KeyCustody.Database
