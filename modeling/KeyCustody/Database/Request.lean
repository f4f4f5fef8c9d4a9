import KeyCustody.Database.Location

/-!
# Requests to open a database

What is asked for when a database is opened: a name, in bytes, and how it is to be opened. A name
that starts with `file:` is an address, which is decoded and may say more in parameters. They may
narrow what is allowed, but not widen it.
-/

namespace KeyCustody.Database

open Http Text

inductive Layer where
  | usual
  /-- For files that no other program opens. -/
  | exclusive
  /-- Without locks. -/
  | unlocked
  /-- With a directory beside the file as its lock. -/
  | dotted
  /-- In memory, where a name with a slash in front is found by all. -/
  | memory
  deriving DecidableEq, Repr

namespace Layer

def name : Layer → String
  | usual => "unix"
  | exclusive => "unix-excl"
  | unlocked => "unix-none"
  | dotted => "unix-dotfile"
  | memory => "memdb"

def all : List Layer := [usual, exclusive, unlocked, dotted, memory]

def ofName? (name : List UInt8) : Option Layer :=
  all.find? fun l => Utf8.encode l.name.toList = name

end Layer

inductive Mode where
  | none
  | reading
  | writing
  | creating
  deriving DecidableEq, Repr

def Mode.rank : Mode → Nat
  | none => 0
  | reading => 1
  | writing => 2
  | creating => 3

structure Request where
  /-- The name; nothing else is found under a name that is missing. -/
  name : Option (List UInt8)
  isAddress : Bool
  mode : Mode
  inMemory : Bool
  isShared : Bool
  isFrozen : Bool
  isUnlocked : Bool
  layer : Layer
  deriving Repr

namespace Request

def bytes (s : String) : List UInt8 :=
  Utf8.encode s.toList

/-- Whether a parameter says yes: in a word, or by a number other than zero. -/
def isYes (value : List UInt8) : Bool :=
  let digits := value.takeWhile fun b => 48 ≤ b && b ≤ 57
  if digits.isEmpty then
    ["on", "yes", "true"].any fun word =>
      bytes word = value.map fun b => if 65 ≤ b && b ≤ 90 then b + 32 else b
  else
    let n := digits.foldl (fun n b => n * 10 + (b.toNat - 48)) 0
    n < 2147483648 && n % 256 ≠ 0

/-- Allows what a parameter asks for, if that is no more than is allowed. -/
def restrict? (r : Request) (mode : Mode) : Option Request :=
  if r.inMemory || mode.rank ≤ r.mode.rank then some { r with mode := mode, inMemory := false }
  else none

def adjust? (r : Request) (name value : List UInt8) : Option Request :=
  if name = bytes "mode" then
    if value = bytes "ro" then r.restrict? .reading
    else if value = bytes "rw" then r.restrict? .writing
    else if value = bytes "rwc" then r.restrict? .creating
    else if value = bytes "memory" then some { r with mode := .none, inMemory := true }
    else none
  else if name = bytes "cache" then
    if value = bytes "shared" then some { r with isShared := true }
    else if value = bytes "private" then some { r with isShared := false }
    else none
  else some r

/-- A part of an address, decoded. What stands after a zero is not seen. -/
def decode (part : List UInt8) : List UInt8 :=
  (Percent.decode part).takeWhile (· ≠ 0)

/-- The parameters of an address, as far as they have a name. -/
def parameters (query : List UInt8) : List (List UInt8 × List UInt8) :=
  ((splitWhere (· = 38) query).map fun part =>
    let (name, value) := Url.cut (· = 61) part
    (decode name, decode value.tail)).filter fun p => !p.1.isEmpty

/-- An address without its scheme and host, which has to be this machine. -/
def local? (address : List UInt8) : Option (List UInt8) :=
  match address with
  | 47 :: 47 :: rest =>
    let (host, path) := Url.cut (· = 47) rest
    if host.isEmpty || host = bytes "localhost" then some path else none
  | _ => some address

/-- What an address, without its scheme, asks for beyond what was asked for already. -/
def ofAddress? (start : Request) (address : List UInt8) : Option Request := do
  let text := (← local? address).takeWhile (· ≠ 35)
  let (path, query) := Url.cut (· = 63) text
  let parameters := parameters query.tail
  let r ← parameters.foldlM (fun r p => r.adjust? p.1 p.2) start
  let layer ← match (parameters.filter (·.1 = bytes "vfs")).getLast? with
    | some (_, name) => Layer.ofName? name
    | none => some r.layer
  return { r with
    name := some (decode path)
    isAddress := true
    layer := layer
    isFrozen := (parameters.lookup (bytes "immutable")).any isYes
    isUnlocked := (parameters.lookup (bytes "nolock")).any isYes }

/-- A value as it stands in the parameters of an address. -/
def encode (text : String) : List UInt8 :=
  (bytes text).flatMap fun b =>
    if (Char.ofNat b.toNat).isAlphanum then [b]
    else (Percent.encodeByte b).map (UInt8.ofNat ·.toNat)

/-- The name that is opened. An address is made of it if more has to be said. -/
def nameOf (l : Location) : List UInt8 :=
  let name := l.file.getD "file:"
  let frozen := if l.isFrozen then ["immutable=true"] else []
  let layer := l.layer.toList.map fun layer => "vfs=" ++ String.ofList (text layer)
  if l.isFrozen || l.layer.isSome then
    bytes "file:" ++ encode name ++ bytes ("?" ++ "&".intercalate (frozen ++ layer))
  else bytes name
where
  text (s : String) : List Char := (encode s).map fun b => Char.ofNat b.toNat

def ofLocation? (l : Location) : Option Request := do
  let name := nameOf l
  let start : Request :=
    ⟨some name, false, if l.readOnly then .reading else .creating, l.inMemory, l.isShared, false,
      false, .usual⟩
  if name.contains 0 then none
  let r ← match after? (bytes "file:") name with
    | some address => ofAddress? start address
    | none => some start
  return if l.file.isNone then { r with name := none } else r

end Request

end KeyCustody.Database
