import KeyCustody.Text.Blank
import KeyCustody.Text.Hex
import KeyCustody.Text.Utf8
import KeyCustody.Json.Value

/-!
# Reading JSON

A strict reader: one value, with nothing but blanks around it, controls escaped, and no leading
zeros. Members may repeat; who asks for a member decides what that means. A string that escapes
halves of characters is read, but as nothing that can be used.

Bytes are read, each shown as the character of its number: whatever has a meaning outside strings is
ASCII. Bytes that are no text can stand in a string like halves of characters.
-/

namespace KeyCustody.Json

open Text

def isSpace (c : Char) : Bool :=
  c = ' ' || c = '\n' || c = '\t' || c = '\r'

def skipSpace (cs : List Char) : List Char :=
  cs.dropWhile isSpace

/-- A character of a string, or a code unit that an escape named. -/
inductive Piece where
  | char (c : Char)
  | unit (n : Nat)

def hex4? : List Char → Option (Nat × List Char)
  | a :: b :: c :: d :: rest => do
    let upper := (← hexDigit? a) * 16 + (← hexDigit? b)
    let lower := (← hexDigit? c) * 16 + (← hexDigit? d)
    let n := upper * 256 + lower
    some (n, rest)
  | _ => none

theorem hex4?_length {cs rest : List Char} {n : Nat} (h : hex4? cs = some (n, rest)) :
    rest.length < cs.length := by
  unfold hex4? at h
  split at h
  · simp only [Option.bind_eq_bind, Option.bind_eq_some_iff, Option.some.injEq, Prod.mk.injEq] at h
    obtain ⟨_, _, _, _, _, _, _, _, _, rfl⟩ := h
    simp
    omega
  · simp at h

/-- The character a one-letter escape stands for. -/
def escaped? (c : Char) : Option Char :=
  if c = '"' || c = '\\' || c = '/' then some c
  else if c = 'b' then some (Char.ofNat 8)
  else if c = 'f' then some (Char.ofNat 12)
  else if c = 'n' then some '\n'
  else if c = 'r' then some '\r'
  else if c = 't' then some '\t'
  else none

/-- The pieces of a string up to its closing quote. -/
def pieces? : List Char → Option (List Piece × List Char)
  | [] => none
  | '"' :: rest => some ([], rest)
  | '\\' :: 'u' :: rest =>
    match _found : hex4? rest with
    | some (n, rest) => (pieces? rest).map fun (ps, rest) => (.unit n :: ps, rest)
    | none => none
  | '\\' :: c :: rest => do
    let c ← escaped? c
    let (ps, rest) ← pieces? rest
    some (.char c :: ps, rest)
  | c :: rest =>
    if c.toNat < 0x20 then none
    else (pieces? rest).map fun (ps, rest) => (.char c :: ps, rest)
termination_by cs => cs.length
decreasing_by
  · have := hex4?_length _found
    simp only [List.length_cons]
    omega
  · simp only [List.length_cons]
    omega
  · simp only [List.length_cons]
    omega

/-- What a string's pieces spell: two code units that form a pair are one character, and a unit that
lacks its other half is none. Characters that stand for themselves may be spelled in another way
than those that code units name. -/
def join? {α : Type} (own named : Char → List α) : List Piece → Option (List α)
  | [] => some []
  | .char c :: ps => (join? own named ps).map (own c ++ ·)
  | .unit n :: .unit m :: ps =>
    if 0xD800 ≤ n ∧ n < 0xDC00 then
      if 0xDC00 ≤ m ∧ m < 0xE000 then
        let c := Char.ofNat (0x10000 + (n - 0xD800) * 1024 + (m - 0xDC00))
        (join? own named ps).map (named c ++ ·)
      else none
    else if 0xDC00 ≤ n ∧ n < 0xE000 then none
    else (join? own named (.unit m :: ps)).map (named (Char.ofNat n) ++ ·)
  | .unit n :: ps =>
    if 0xD800 ≤ n ∧ n < 0xE000 then none
    else (join? own named ps).map (named (Char.ofNat n) ++ ·)

def someDigits? (cs : List Char) : Option (List Char × List Char) :=
  match cs.takeWhile Char.isDigit with
  | [] => none
  | ds => some (ds, cs.drop ds.length)

/-- The digits of an integer: none in front of them is a zero. -/
def integer? : List Char → Option (List Char × List Char)
  | '0' :: rest =>
    match rest with
    | c :: _ => if c.isDigit then none else some (['0'], rest)
    | [] => some (['0'], rest)
  | cs => someDigits? cs

/-- A point and digits, or nothing. -/
def fraction? : List Char → Option (List Char × List Char)
  | '.' :: cs => (someDigits? cs).map fun (ds, rest) => ('.' :: ds, rest)
  | cs => some ([], cs)

/-- A power of ten, or nothing. -/
def exponent? : List Char → Option (List Char × List Char)
  | e :: cs =>
    if e = 'e' || e = 'E' then
      let (sign, cs) := match cs with
        | '+' :: cs => (['+'], cs)
        | '-' :: cs => (['-'], cs)
        | cs => ([], cs)
      (someDigits? cs).map fun (ds, rest) => (e :: sign ++ ds, rest)
    else some ([], e :: cs)
  | [] => some ([], [])

def number? (cs : List Char) : Option (Number × List Char) := do
  let (minus, cs) := match cs with
    | '-' :: cs => (true, cs)
    | cs => (false, cs)
  let (whole, cs) ← integer? cs
  let (fraction, cs) ← fraction? cs
  let (exponent, cs) ← exponent? cs
  let n : Nat := whole.foldl (fun n c => n * 10 + (c.toNat - 48)) 0
  if fraction.isEmpty && exponent.isEmpty && !(minus && n = 0) then
    some (.whole (if minus then -(n : Int) else n), cs)
  else
    let sign := if minus then ['-'] else []
    some (.decimal (String.ofList (sign ++ whole ++ fraction ++ exponent)), cs)

/-- A byte as the character of its number. -/
def shown (b : UInt8) : Char := Char.ofNat b.toNat

/-- The byte that a character shows. -/
def byte (c : Char) : UInt8 := UInt8.ofNat c.toNat

/-- The text of a string whose opening quote has been read, if there is one in it. -/
def string? (cs : List Char) : Option (Option String × List Char) := do
  let (ps, rest) ← pieces? cs
  some ((join? (fun c => [byte c]) String.utf8EncodeChar ps).bind Text.Utf8.decode?, rest)

mutual

def value? : Nat → List Char → Option (Json × List Char)
  | 0, _ => none
  | fuel + 1, cs =>
    match skipSpace cs with
    | '"' :: rest => do
      let (text, rest) ← string? rest
      some (text.elim .unreadable .string, rest)
    | '[' :: rest =>
      match skipSpace rest with
      | ']' :: rest => some (.array [], rest)
      | rest => (items? fuel rest).map fun (items, rest) => (.array items, rest)
    | '{' :: rest =>
      match skipSpace rest with
      | '}' :: rest => some (.object [], rest)
      | rest => (members? fuel rest).map fun (members, rest) =>
        (members.elim .unreadable .object, rest)
    | 'n' :: rest => (after? ['u', 'l', 'l'] rest).map fun rest => (.null, rest)
    | 't' :: rest => (after? ['r', 'u', 'e'] rest).map fun rest => (.bool true, rest)
    | 'f' :: rest => (after? ['a', 'l', 's', 'e'] rest).map fun rest => (.bool false, rest)
    | cs => (number? cs).map fun (n, rest) => (.number n, rest)

/-- Items up to the closing bracket, at least one. -/
def items? : Nat → List Char → Option (List Json × List Char)
  | 0, _ => none
  | fuel + 1, cs => do
    let (item, rest) ← value? fuel cs
    match skipSpace rest with
    | ',' :: rest => do
      let (items, rest) ← items? fuel rest
      some (item :: items, rest)
    | ']' :: rest => some ([item], rest)
    | _ => none

/-- Members up to the closing brace, at least one; a name that is no text leaves none of them. -/
def members? : Nat → List Char → Option (Option (List (String × Json)) × List Char)
  | 0, _ => none
  | fuel + 1, cs =>
    match skipSpace cs with
    | '"' :: rest => do
      let (name, rest) ← string? rest
      match skipSpace rest with
      | ':' :: rest => do
        let (value, rest) ← value? fuel rest
        match skipSpace rest with
        | ',' :: rest => do
          let (members, rest) ← members? fuel rest
          some (return (← name, value) :: (← members), rest)
        | '}' :: rest => some (name.map fun name => [(name, value)], rest)
        | _ => none
      | _ => none
    | _ => none

end

/-- The value of bytes that hold one value and blanks. A value nests no deeper than it has bytes, so
the fuel suffices. -/
def readBytes? (bytes : List UInt8) : Option Json := do
  let (value, rest) ← value? (2 * bytes.length + 1) (bytes.map shown)
  if (skipSpace rest).isEmpty then some value else none

/-- The value of a text that holds one value and blanks. -/
def read? (s : String) : Option Json :=
  readBytes? (Utf8.encode s.toList)

end KeyCustody.Json
