import KeyCustody.Http.Domain
import KeyCustody.Http.Percent
import KeyCustody.Text.Utf8

/-!
# Hosts

The host of an address: a domain name in lower-case ASCII, an address of four bytes in any of its
spellings, or one of eight groups in brackets. Schemes outside the web take any text.
-/

namespace KeyCustody.Http

open Text

inductive Host where
  | domain (name : String)
  | ipv4 (n : Nat)
  | ipv6 (groups : List Nat)
  deriving DecidableEq, Repr

namespace Host

/-! ## Four bytes -/

/-- The value of digits in a base; of none it is zero. -/
def digitsValue? (base : Nat) (cs : List Char) : Option Nat :=
  cs.foldlM (fun n c => do
    let d ← hexDigit? c
    if d < base then some (n * base + d) else none) 0

/-- A part of an address: decimal, octal after a zero, or hexadecimal after `0x`. -/
def part? : List Char → Option Nat
  | [] => none
  | '0' :: 'x' :: cs => digitsValue? 16 cs
  | '0' :: 'X' :: cs => digitsValue? 16 cs
  | '0' :: c :: cs => digitsValue? 8 (c :: cs)
  | cs => digitsValue? 10 cs

/-- The parts of a name, a last empty one left out. -/
def parts (name : List Char) : List (List Char) :=
  let parts := splitWhere (· = '.') name
  if parts.getLast? = some [] then parts.dropLast else parts

/-- Whether a name can only be an address of four bytes. -/
def endsInNumber (name : List Char) : Bool :=
  match (parts name).getLast? with
  | none => false
  | some last => (!last.isEmpty && last.all Char.isDigit) || (part? last).isSome

/-- The address: up to three bytes, and the rest in the last part. -/
def ipv4? (name : List Char) : Option Nat := do
  let numbers ← (parts name).mapM part?
  let last ← numbers.getLast?
  let bytes := numbers.dropLast
  if bytes.length ≤ 3 ∧ bytes.all (· ≤ 255) ∧ last < Nat.pow 256 (4 - bytes.length) then
    some (bytes.foldl (fun n b => n * 256 + b) 0 * Nat.pow 256 (4 - bytes.length) + last)
  else none

/-! ## Eight groups -/

/-- Groups of up to four hexadecimal digits between colons. Two colons stand for a group of zero,
and `gap` says behind which group more of them may follow. -/
structure Groups where
  groups : List Nat
  gap : Option Nat

/-- A decimal byte without zeros in front. -/
def byte? (cs : List Char) : Option Nat :=
  match cs with
  | [] => none
  | '0' :: _ :: _ => none
  | cs => do
    let n ← digitsValue? 10 cs
    if n ≤ 255 then some n else none

/-- The last two groups as four decimal bytes. -/
def embedded? (cs : List Char) : Option (List Nat) := do
  match ← (splitWhere (· = '.') cs).mapM byte? with
  | [a, b, c, d] => some [a * 256 + b, c * 256 + d]
  | _ => none

def groups? : Nat → List Char → Groups → Option Groups
  | _, [], g => some g
  | 0, _ :: _, _ => none
  | fuel + 1, cs, g =>
    if 8 ≤ g.groups.length then none
    else
      let digits := (cs.take 4).takeWhile isHexDigit
      match cs.drop digits.length with
      | '.' :: _ =>
        if digits.isEmpty || 6 < g.groups.length then none
        else (embedded? cs).map fun last => { g with groups := g.groups ++ last }
      | ':' :: rest =>
        if digits.isEmpty then
          if g.gap.isSome then none
          else groups? fuel rest ⟨g.groups ++ [0], some (g.groups.length + 1)⟩
        else if rest.isEmpty then none
        else do groups? fuel rest { g with groups := g.groups ++ [← digitsValue? 16 digits] }
      | [] => (digitsValue? 16 digits).map fun n => { g with groups := g.groups ++ [n] }
      | _ => none

/-- The address between the brackets. -/
def ipv6? (cs : List Char) : Option (List Nat) := do
  let start ← match cs with
    | ':' :: ':' :: _ => some cs.tail
    | ':' :: _ => none
    | [] => none
    | cs => some cs
  let g ← groups? (cs.length + 1) start ⟨[], none⟩
  match g.gap with
  | none => if g.groups.length = 8 then some g.groups else none
  | some at_ =>
    if g.groups.length ≤ 8 then
      some (g.groups.take at_ ++ List.replicate (8 - g.groups.length) 0 ++ g.groups.drop at_)
    else none

/-- The first of the longest runs of at least two zeros: its start and length. -/
def longestZeros (groups : List Nat) : Option (Nat × Nat) :=
  (List.range groups.length).foldl (fun best i =>
    let n := ((groups.drop i).takeWhile (· = 0)).length
    if 2 ≤ n && best.all (·.2 < n) then some (i, n) else best) none

def hexText (n : Nat) : String := String.ofList (Nat.toDigits 16 n)

def ipv6Text (groups : List Nat) : String :=
  let join gs := ":".intercalate (gs.map hexText)
  match longestZeros groups with
  | none => join groups
  | some (start, n) => join (groups.take start) ++ "::" ++ join (groups.drop (start + n))

instance : ToString Host where
  toString
    | domain name => name
    | ipv4 n =>
      ".".intercalate ([n / 16777216, n / 65536 % 256, n / 256 % 256, n % 256].map toString)
    | ipv6 groups => "[" ++ ipv6Text groups ++ "]"

/-! ## Names -/

def isForbidden (c : Char) : Bool :=
  c.toNat = 0 || ['\t', '\n', '\r', ' ', '#', '/', ':', '<', '>', '?', '@'].contains c ||
    ['[', '\\', ']', '^', '|'].contains c

def domain? (cs : List Char) : Option (List Char) :=
  Domain.toAscii? (Utf8.decodeLossy (Percent.decode (Utf8.encode cs)))

/-- The host that a text names in an address of the web; it may not be empty. -/
def read? (cs : List Char) : Option Host :=
  match cs with
  | '[' :: rest =>
    if rest.getLast? = some ']' then (ipv6? rest.dropLast).map ipv6 else none
  | cs => do
    let name ← domain? cs
    if name.isEmpty then none
    else if endsInNumber name then (ipv4? name).map ipv4
    else some (domain (String.ofList name))

/-- The host that a text names in any other address; it may be empty. -/
def readPlain? (cs : List Char) : Option Host :=
  match cs with
  | '[' :: rest =>
    if rest.getLast? = some ']' then (ipv6? rest.dropLast).map ipv6 else none
  | cs =>
    if cs.any isForbidden then none
    else some (domain (String.ofList (Percent.encode Percent.isControl cs)))

end Host

end KeyCustody.Http
