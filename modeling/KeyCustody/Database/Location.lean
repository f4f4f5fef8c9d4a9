import KeyCustody.Http.Url
import KeyCustody.Http.Exchange

/-!
# Locations of databases

A connection string says where a database is: in memory, or in a file, with parameters after a
question mark. Unknown parameters and values are refused. It is shown without its login.
-/

namespace KeyCustody.Database

open Http Text

structure Location where
  /-- The name of the file. A database in memory may have none, and then no one else finds it. -/
  file : Option String
  inMemory : Bool
  /-- Whether those who open the database alike share what they have open. -/
  isShared : Bool
  readOnly : Bool
  /-- Whether nothing changes the database as long as it is open. -/
  isFrozen : Bool
  layer : Option String
  deriving DecidableEq, Repr

namespace Location

/-- The text without every occurrence of a beginning at its start. -/
def trimStart (start : List Char) (cs : List Char) : List Char :=
  match start, cs with
  | s :: ss, c :: cs =>
    match _found : after? (s :: ss) (c :: cs) with
    | some rest => trimStart (s :: ss) rest
    | none => c :: cs
  | _, cs => cs
termination_by cs.length
decreasing_by
  have := congrArg List.length (after?_eq_some_iff.1 _found)
  simp at this ⊢
  omega

/-- A name or value of a parameter as it was before it was encoded. -/
def unescape (cs : List Char) : String :=
  let bytes := Utf8.encode (cs.map fun c => if c = '+' then ' ' else c)
  String.ofList (Utf8.decodeLossy (Percent.decode bytes))

/-- Names and values between `&` and `=`. -/
def parameters (cs : List Char) : List (String × String) :=
  ((splitWhere (· = '&') cs).filter fun part => !part.isEmpty).map fun part =>
    let (name, value) := Url.cut (· = '=') part
    (unescape name, unescape value.tail)

def adjust? (l : Location) (name value : String) : Option Location :=
  match name, value with
  | "mode", "ro" => some { l with readOnly := true }
  | "mode", "rw" | "mode", "rwc" => some l
  | "mode", "memory" => some { l with inMemory := true, isShared := true }
  | "cache", "private" => some { l with isShared := false }
  | "cache", "shared" => some { l with isShared := true }
  | "immutable", "true" | "immutable", "1" => some { l with isFrozen := true }
  | "immutable", "false" | "immutable", "0" => some { l with isFrozen := false }
  | "vfs", layer => some { l with layer := some layer }
  | _, _ => none

def ofFile (file : String) : Location :=
  ⟨some file, false, false, false, false, none⟩

/-- A database in memory that is found through its pool alone. -/
def unnamed : Location :=
  ⟨none, true, true, false, false, none⟩

def read? (text : String) : Option Location := do
  let cs := trimStart "sqlite:".toList (trimStart "sqlite://".toList text.toList)
  let (name, query) := Url.cut (· = '?') cs
  let start ← if String.ofList name = ":memory:" then some unnamed
    else (Utf8.decode? (Percent.decode (Utf8.encode name))).map ofFile
  (parameters query.tail).foldlM (fun l p => l.adjust? p.1 p.2) start

end Location

/-- A connection string as it is shown: without its login, if it has one. -/
def sanitize (text : String) : String :=
  match Url.read? text with
  | none => text
  | some u =>
    if u.hasLogin then
      let host := match u.authority with
        | some a => if a.host = .domain "" then "unknown" else toString a.host
        | none => "unknown"
      u.scheme ++ "://***:***@" ++ host ++ u.path
    else text

end KeyCustody.Database
