import KeyCustody.Text.Blank
import KeyCustody.Time.Instant

/-!
# Instants as text

The RFC 3339 form of an instant. Writing uses one form: the letters `T` and `Z`, and a fraction of
no, three, six or nine digits, as few as keep the value. Reading is lenient: blanks may surround the
numbers, a number may have one digit, `t` or a blank may stand for `T`, and the offset may be `Z`,
`UTC` or a signed hour and minute.
-/

namespace KeyCustody.Time.Rfc3339

open Text

/-! ## Writing -/

/-- A number with zeros in front, up to a width. -/
def padded (width n : Nat) : List Char :=
  let digits := Nat.toDigits 10 n
  List.replicate (width - digits.length) '0' ++ digits

/-- Years outside 0 to 9999 carry a sign. -/
def writeYear (year : Int) : List Char :=
  if 0 ≤ year ∧ year ≤ 9999 then padded 4 year.toNat
  else (if year < 0 then '-' else '+') :: padded 4 year.natAbs

def writeFraction (nanos : Nat) : List Char :=
  if nanos = 0 then []
  else if nanos % 1000000 = 0 then '.' :: padded 3 (nanos / 1000000)
  else if nanos % 1000 = 0 then '.' :: padded 6 (nanos / 1000)
  else '.' :: padded 9 nanos

def write (t : Instant) : String :=
  let date := t.date
  let inDay := (t.seconds.fmod 86400).toNat
  let second := inDay % 60 + t.nanos / 1000000000
  String.ofList <|
    writeYear date.year ++ '-' :: padded 2 date.month ++ '-' :: padded 2 date.day ++
      'T' :: padded 2 (inDay / 3600) ++ ':' :: padded 2 (inDay / 60 % 60) ++
      ':' :: padded 2 second ++ writeFraction (t.nanos % 1000000000) ++ ['Z']

/-! ## Reading -/

def digit? (c : Char) : Option Nat :=
  if '0' ≤ c ∧ c ≤ '9' then some (c.toNat - 48) else none

def valueOf (digits : List Char) : Nat :=
  digits.foldl (fun n c => n * 10 + (c.toNat - 48)) 0

def skipBlanks (cs : List Char) : List Char :=
  cs.dropWhile isBlank

/-- At least one digit, and at most `width` of them. -/
def digits? (width : Nat) (cs : List Char) : Option (List Char × List Char) :=
  match (cs.take width).takeWhile Char.isDigit with
  | [] => none
  | ds => some (ds, cs.drop ds.length)

/-- A number of at most `width` digits within bounds, blanks before it. -/
def number? (width lo hi : Nat) (cs : List Char) : Option (Nat × List Char) := do
  let (ds, rest) ← digits? width (skipBlanks cs)
  let n := valueOf ds
  if lo ≤ n ∧ n ≤ hi then some (n, rest) else none

/-- A year has up to four digits, or a sign and any number of them. -/
def year? (cs : List Char) : Option (Int × List Char) :=
  match skipBlanks cs with
  | '-' :: cs => (digits? cs.length cs).map fun (ds, rest) => (-(valueOf ds : Int), rest)
  | '+' :: cs => (digits? cs.length cs).map fun (ds, rest) => ((valueOf ds : Int), rest)
  | cs => (digits? 4 cs).map fun (ds, rest) => ((valueOf ds : Int), rest)

/-- A mark, blanks before it. -/
def mark? (c : Char) (cs : List Char) : Option (List Char) :=
  match skipBlanks cs with
  | [] => none
  | d :: rest => if d = c then some rest else none

/-- A fraction of a second in nanoseconds; digits after the ninth are dropped. -/
def fraction? : List Char → Option (Nat × List Char)
  | '.' :: cs => do
    let (ds, rest) ← digits? 9 cs
    some (valueOf ds * Nat.pow 10 (9 - ds.length), rest.dropWhile Char.isDigit)
  | cs => some (0, cs)

/-- The sign of an offset; the typographic minus counts as one. -/
def sign? : List Char → Option (Int × List Char)
  | '+' :: cs => some (1, cs)
  | '-' :: cs => some (-1, cs)
  | c :: cs => if c.toNat = 0x2212 then some (-1, cs) else none
  | [] => none

def twoDigits? : List Char → Option (Nat × List Char)
  | a :: b :: cs => do
    let x ← digit? a
    let y ← digit? b
    some (x * 10 + y, cs)
  | _ => none

/-- An offset from UTC in seconds. -/
def offset? (cs : List Char) : Option (Int × List Char) :=
  match cs with
  | 'Z' :: rest => some (0, rest)
  | 'z' :: rest => some (0, rest)
  | _ =>
    match after? ['u', 't', 'c'] ((cs.take 3).map Char.toLower) with
    | some _ => some (0, cs.drop 3)
    | none => do
      let (sign, cs) ← sign? cs
      let (hours, cs) ← twoDigits? cs
      let (minutes, cs) ← twoDigits? (cs.dropWhile fun c => c = ':' || isBlank c)
      if hours < 24 ∧ minutes < 60 then some (sign * (hours * 3600 + minutes * 60 : Nat), cs)
      else none

/-- The letter or blank between date and time. -/
def separator? : List Char → Option (List Char)
  | 'T' :: cs => some cs
  | 't' :: cs => some cs
  | ' ' :: cs => some cs
  | _ => none

def readChars (cs : List Char) : Option Instant := do
  let (year, cs) ← year? cs
  let cs ← mark? '-' cs
  let (month, cs) ← number? 2 1 12 cs
  let cs ← mark? '-' cs
  let (day, cs) ← number? 2 1 31 cs
  let cs ← separator? cs
  let (hour, cs) ← number? 2 0 23 cs
  let cs ← mark? ':' cs
  let (minute, cs) ← number? 2 0 59 cs
  let cs ← mark? ':' cs
  let (second, cs) ← number? 2 0 60 cs
  let (fraction, cs) ← fraction? cs
  let (offset, cs) ← offset? (skipBlanks cs)
  let date := Date.mk year month day
  let inDay : Nat := hour * 3600 + minute * 60 + min second 59
  let wall : Instant :=
    ⟨date.toDays * 86400 + inDay, fraction + (if second = 60 then 1000000000 else 0)⟩
  let t := { wall with seconds := wall.seconds - offset }
  if (skipBlanks cs).isEmpty && date.isReal && wall.inRange && t.inRange then some t else none

def read? (s : String) : Option Instant :=
  readChars s.toList

end KeyCustody.Time.Rfc3339
