import KeyCustody.Database.Location
import KeyCustody.Settings.Basic

/-!
# Pools of connections

A pool is opened from settings that are looked at first. One pool is shared: whoever asks gets the
same as long as it is open, whatever settings they bring.
-/

namespace KeyCustody.Database

/-- What the engine needs from databases; `P` stands for open pools. -/
structure Sqlite (m : Type → Type) (P : Type) where
  /-- Opens a pool, if that can be done. -/
  connect : Settings.Database → Location → m (Option P)
  isClosed : P → m Bool
  ping : P → m Bool
  /-- Creates the table of the registry unless it is there; whether that succeeds. -/
  createTable : P → m Bool

/-- The first thing wrong with the settings of a pool. -/
def settingsFault? (d : Settings.Database) : Option String :=
  if d.maxConnections = 0 then some "max_connections must be greater than 0"
  else if d.maxConnections < d.minConnections then
    some "min_connections cannot be greater than max_connections"
  else if d.url.isEmpty then some "database URL cannot be empty"
  else if !d.isSqlite then some "database URL must start with 'sqlite:'"
  else none

def checkSettings (d : Settings.Database) : Except Error Unit :=
  match settingsFault? d with
  | some fault => .error (.validation fault none)
  | none => .ok ()

/-- What an operation on the database is called when nothing more is said about it. -/
def someOperation : Error := .database "Database operation failed"

variable {m : Type → Type} [Monad m] {P : Type} (sqlite : Sqlite m P)

def ensureTable (pool : P) : ExceptT Error m Unit := do
  if !(← sqlite.createTable pool) then
    throw (.database "Failed to create secret_id_translations table")

/-- Opens a pool, and creates the table if the settings say so. -/
def openPool (d : Settings.Database) : ExceptT Error m P := do
  checkSettings d
  match Location.read? d.url with
  | none => throw (.database ("Invalid SQLite connection string: " ++ sanitize d.url))
  | some location =>
    match ← sqlite.connect d location with
    | none => throw (.database ("Failed to connect to database: " ++ sanitize d.url))
    | some pool =>
      if d.createsTable then ensureTable sqlite pool
      return pool

def checkConnection (pool : P) : ExceptT Error m Unit := do
  if !(← sqlite.ping pool) then throw (.database "Database connectivity check failed")

/-- The shared pool and what is in its place afterwards. One that is missing or closed is replaced,
if the new one can be opened. -/
def sharedPool (slot : Option P) (d : Settings.Database) : m (Except Error P × Option P) := do
  let usable ← match slot with
    | some pool => if ← sqlite.isClosed pool then pure none else pure (some pool)
    | none => pure none
  match usable with
  | some pool => return (.ok pool, slot)
  | none =>
    match ← (openPool sqlite d).run with
    | .ok pool => return (.ok pool, some pool)
    | .error error => return (.error error, slot)

end KeyCustody.Database
