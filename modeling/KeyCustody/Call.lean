import KeyCustody.Barbican.Basic
import KeyCustody.Catalog.Basic
import KeyCustody.Counter
import KeyCustody.Custodian
import KeyCustody.Keystore.InMemory
import KeyCustody.Keystore.Networked
import KeyCustody.Program
import KeyCustody.Registry.Basic

/-!
# Calls on the collaborators

The single calls that requests come down to: on the registry of issued identifiers, on the catalog,
on the Barbican API, on the vault, on the sources of fresh values and of the time, and on the
counters. A request is a program of these, and what answers them is left open.
-/

namespace KeyCustody

open Barbican (PayloadType KeyRequest OrderStatus)
open Catalog (Query)
open Registry (Entry)
open Time

inductive Call where
  | addEntry (tenant : Tenant) (e : Entry)
  | getEntry (tenant : Tenant) (id : String)
  | updateEntry (tenant : Tenant) (e : Entry)
  | deleteEntry (tenant : Tenant) (id : String)
  | createRecord (caller : Caller) (s : Secret)
  | getRecord (caller : Caller) (id : String)
  | changeRecord (caller : Caller) (id : String) (c : PhaseChange)
  | deleteRecord (caller : Caller) (id : String)
  | listRecords (caller : Caller) (q : Query)
  | totalRecords (caller : Caller) (q : Query)
  | postSecret (caller : Caller) (name : String) (payload : Sealed) (type : PayloadType)
  | postOrder (caller : Caller) (r : KeyRequest)
  | checkOrder (caller : Caller) (ref : String)
  | getPayload (caller : Caller) (ref : String) (type : PayloadType)
  | deleteSecret (caller : Caller) (ref : String)
  | deleteOrder (caller : Caller) (ref : String)
  | putMaterial (ref : String) (material : Sealed)
  | findMaterial (ref : String)
  | dropMaterial (ref : String)
  | drawIdentifier
  | drawReference
  | drawBytes (count : Nat)
  | now
  | count (c : Counter)

namespace Call

def Answer : Call → Type
  | addEntry .. | updateEntry .. | deleteEntry .. => Except Error Unit
  | getEntry .. => Except Error Entry
  | createRecord .. | deleteRecord .. => Except Error Secret
  | getRecord .. => Except Error (Option Secret)
  | changeRecord .. => Except Error Unit
  | listRecords .. => Except Error (List Secret)
  | totalRecords .. => Except Error Nat
  | postSecret .. | postOrder .. => Except Error String
  | checkOrder .. => Except Error OrderStatus
  | getPayload .. => Except Error Sealed
  | deleteSecret .. | deleteOrder .. => Except Error Unit
  | putMaterial .. | dropMaterial .. => Unit
  | findMaterial .. => Option Sealed
  | drawIdentifier | drawReference => String
  | drawBytes _ => List UInt8
  | now => Instant
  | count _ => Unit

variable {m : Type → Type}

/-! ## The collaborators, each operation one call -/

section
variable (answer : (c : Call) → m c.Answer)

def registry : Registry m where
  add tenant e := ExceptT.mk (answer (.addEntry tenant e))
  get tenant id := ExceptT.mk (answer (.getEntry tenant id))
  update tenant e := ExceptT.mk (answer (.updateEntry tenant e))
  delete tenant id := ExceptT.mk (answer (.deleteEntry tenant id))

def catalog : Catalog m where
  create caller s := ExceptT.mk (answer (.createRecord caller s))
  get caller id := ExceptT.mk (answer (.getRecord caller id))
  change caller id c := ExceptT.mk (answer (.changeRecord caller id c))
  delete caller id := ExceptT.mk (answer (.deleteRecord caller id))
  list caller q := ExceptT.mk (answer (.listRecords caller q))
  total caller q := ExceptT.mk (answer (.totalRecords caller q))

def barbican : Barbican m where
  postSecret caller name payload type := ExceptT.mk (answer (.postSecret caller name payload type))
  postOrder caller r := ExceptT.mk (answer (.postOrder caller r))
  checkOrder caller ref := ExceptT.mk (answer (.checkOrder caller ref))
  getPayload caller ref type := ExceptT.mk (answer (.getPayload caller ref type))
  deleteSecret caller ref := ExceptT.mk (answer (.deleteSecret caller ref))
  deleteOrder caller ref := ExceptT.mk (answer (.deleteOrder caller ref))

def vault : Vault m where
  put ref material := answer (.putMaterial ref material)
  find ref := answer (.findMaterial ref)
  drop ref := answer (.dropMaterial ref)

def fresh : Fresh m where
  reference := answer .drawReference
  bytes count := answer (.drawBytes count)

/-- Drawn identifiers, of which at most `tries` are tried for one entry. -/
def candidates (tries : Nat) : Registry.Candidates m :=
  ⟨answer .drawIdentifier, tries⟩

/-! ## Keystores and custodians over them -/

variable [Monad m]

def memoryKeystore (tries : Nat) : Keystore m :=
  Keystore.inMemory (registry answer) (vault answer) (fresh answer) (candidates answer tries)

def barbicanKeystore (tries : Nat) : Keystore m :=
  Keystore.networked (registry answer) (barbican answer) (fun c => answer (.count c))
    (candidates answer tries)

def custodian (keystore : Keystore m) : Custodian m :=
  ⟨keystore, catalog answer, answer .now, fun c => answer (.count c)⟩

end

end Call

/-- What a request does: calls, and a value in the end. -/
abbrev Action := Program Call Call.Answer

namespace Action

def make (c : Call) : Action c.Answer := Program.ask c

def registry : Registry Action := Call.registry make

def catalog : Catalog Action := Call.catalog make

def now : Action Instant := make .now

def count (c : Counter) : Action Unit := make (.count c)

def memoryKeystore (tries : Nat) : Keystore Action := Call.memoryKeystore make tries

def barbicanKeystore (tries : Nat) : Keystore Action := Call.barbicanKeystore make tries

def custodian (keystore : Keystore Action) : Custodian Action := Call.custodian make keystore

end Action

end KeyCustody
