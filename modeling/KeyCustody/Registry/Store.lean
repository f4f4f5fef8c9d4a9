import KeyCustody.Registry.Map
import KeyCustody.Registry.Table

/-!
# Stores of registry entries

A registry is kept as a table in a database or as a map in memory. A database that is closed, or
lacks the table, fails whatever it is asked, once the request has been found to be well formed. A
map never fails.
-/

namespace KeyCustody.Registry

inductive Store where
  | table (isReady : Bool) (rows : Table)
  | map (entries : Map)

namespace Store

/-- The error of a database that could not do something to an entry. -/
def failedTo (verb id : String) : Error :=
  .database ("Failed to " ++ verb ++ " translation for '" ++ id ++ "'")

def add (tenant : Tenant) (e : Entry) : Store → Except Error Unit × Store
  | table true rows => let (result, rows) := rows.add tenant e; (result, table true rows)
  | table false rows =>
    (e.check.bind fun () => .error (failedTo "add" e.issuedId), table false rows)
  | map entries => let (result, entries) := entries.add tenant e; (result, map entries)

def get (tenant : Tenant) (id : String) : Store → Except Error Entry
  | table true rows => rows.get tenant id
  | table false _ => .error (failedTo "get" id)
  | map entries => entries.get tenant id

def update (tenant : Tenant) (e : Entry) : Store → Except Error Unit × Store
  | table true rows => let (result, rows) := rows.update tenant e; (result, table true rows)
  | table false rows =>
    (e.check.bind fun () => .error (failedTo "update" e.issuedId), table false rows)
  | map entries => let (result, entries) := entries.update tenant e; (result, map entries)

def delete (tenant : Tenant) (id : String) : Store → Except Error Unit × Store
  | table true rows => let (result, rows) := rows.delete tenant id; (result, table true rows)
  | table false rows => (.error (failedTo "delete" id), table false rows)
  | map entries => let (result, entries) := entries.delete tenant id; (result, map entries)

/-- The number of entries of a map. A table is not counted. -/
def size? : Store → Option Nat
  | table .. => none
  | map entries => some entries.length

end Store

end KeyCustody.Registry
