import KeyCustody.Json.Reader
import KeyCustody.Json.Real
import KeyCustody.Settings.Value
import KeyCustody.Text.Letter
import KeyCustody.Text.Mark

/-!
# JSON5 files

JSON as a person writes it: with comments, names without quotes, texts in either kind of quotes and
over several lines, more forms of numbers, and commas at the ends of lists.
-/

namespace KeyCustody.Settings.Json5

open Text Json

/-! ## Blanks and comments -/

def isLineEnd (c : Char) : Bool :=
  c = '\n' || c = '\r' || c.toNat = 0x2028 || c.toNat = 0x2029

def isGap (c : Char) : Bool :=
  (isBlank c && c.toNat ≠ 0x85) || c.toNat = 0xFEFF

def afterComment? : List Char → Option (List Char)
  | '*' :: '/' :: cs => some cs
  | _ :: cs => afterComment? cs
  | [] => none

def skip : (fuel : Nat) → List Char → List Char
  | 0, cs => cs
  | fuel + 1, cs =>
    match cs.dropWhile isGap with
    | '/' :: '/' :: cs => skip fuel (cs.dropWhile fun c => !isLineEnd c)
    | '/' :: '*' :: cs =>
      match afterComment? cs with
      | some rest => skip fuel rest
      | none => '/' :: '*' :: cs
    | cs => cs

/-- Skips as far as the text goes. -/
def gap (cs : List Char) : List Char :=
  skip (cs.length + 1) cs

/-! ## Texts and names -/

/-- The character that a letter after a backslash stands for; most stand for themselves. -/
def escaped? (c : Char) : Option Char :=
  if c = 'b' then some (Char.ofNat 8)
  else if c = 'f' then some (Char.ofNat 12)
  else if c = 'n' then some '\n'
  else if c = 'r' then some '\r'
  else if c = 't' then some '\t'
  else if c = 'v' then some (Char.ofNat 11)
  else if c = '0' then some (Char.ofNat 0)
  else if c.isDigit || c = 'x' || c = 'u' then none
  else some c

def pieces? (quote : Char) : (fuel : Nat) → List Char → Option (List Piece × List Char)
  | 0, _ => none
  | fuel + 1, cs =>
    let more (piece : Piece) (cs : List Char) : Option (List Piece × List Char) :=
      (pieces? quote fuel cs).map fun (ps, rest) => (piece :: ps, rest)
    match cs with
    | '\\' :: 'u' :: cs => (hex4? cs).bind fun (n, cs) => more (.unit n) cs
    | '\\' :: 'x' :: a :: b :: cs => do
      more (.char (Char.ofNat ((← hexDigit? a) * 16 + (← hexDigit? b)))) cs
    | '\\' :: '\r' :: '\n' :: cs => pieces? quote fuel cs
    | '\\' :: c :: cs =>
      if isLineEnd c then pieces? quote fuel cs
      else (escaped? c).bind fun c => more (.char c) cs
    | c :: cs =>
      if c = quote then some ([], cs)
      else if c = '\\' || isLineEnd c then none
      else more (.char c) cs
    | [] => none

def isQuote (c : Char) : Bool :=
  c = '"' || c = '\x27'

/-- A text whose opening quote has been read. -/
def text? (quote : Char) (cs : List Char) : Option (String × List Char) := do
  let (ps, rest) ← pieces? quote (cs.length + 1) cs
  return (String.ofList (← join? ([·]) ([·]) ps), rest)

def startsName (c : Char) : Bool :=
  c = '$' || c = '_' || isAlphabetic c

def isNameChar (c : Char) : Bool :=
  startsName c || isAlphanumeric c || isNonspacing c || c.toNat = 0x200C || c.toNat = 0x200D

/-- The pieces of a name without quotes. -/
def namePieces? (isPart : Char → Bool) : (fuel : Nat) → List Char → Option (List Piece × List Char)
  | 0, _ => none
  | fuel + 1, cs =>
    match cs with
    | '\\' :: 'u' :: rest =>
      match hex4? rest with
      | some (n, rest) =>
        (namePieces? isNameChar fuel rest).map fun (ps, rest) => (.unit n :: ps, rest)
      | none => some ([], cs)
    | c :: rest =>
      if isPart c then
        (namePieces? isNameChar fuel rest).map fun (ps, rest) => (.char c :: ps, rest)
      else some ([], cs)
    | [] => some ([], [])

def name? (cs : List Char) : Option (String × List Char) :=
  match cs with
  | c :: rest =>
    if isQuote c then text? c rest
    else do
      let (ps, rest) ← namePieces? startsName (cs.length + 1) cs
      if ps.isEmpty then none else return (String.ofList (← join? ([·]) ([·]) ps), rest)
  | [] => none

/-! ## Numbers -/

def maxHex : Nat := 4294967295

def sign (cs : List Char) : Option Char × List Char :=
  match cs with
  | '-' :: cs => (some '-', cs)
  | '+' :: cs => (some '+', cs)
  | cs => (none, cs)

def decimal? (cs : List Char) : Option (List Char × List Char) := do
  let (whole, rest) ← match cs with
    | '.' :: c :: _ => if c.isDigit then some ([], cs) else none
    | _ => integer? cs
  let (fraction, rest) := match rest with
    | '.' :: rest => ('.' :: rest.takeWhile Char.isDigit, rest.dropWhile Char.isDigit)
    | rest => ([], rest)
  let (power, rest) := (exponent? rest).getD ([], rest)
  return (whole ++ fraction ++ power, rest)

/-- A number: whole, if it has neither a point nor a power of ten. -/
def number? (cs : List Char) : Option (Value × List Char) :=
  let (mark, unsigned) := sign cs
  let negative := mark = some '-'
  match after? "Infinity".toList unsigned, after? "NaN".toList unsigned, unsigned with
  | some rest, _, _ => if mark = some '+' then none else some (.real (.infinite negative), rest)
  | _, some rest, _ => if mark = some '+' then none else some (.real .nan, rest)
  | _, _, '0' :: x :: rest =>
    if x = 'x' || x = 'X' then do
      let digits := rest.takeWhile isHexDigit
      let n ← hexNumber? digits
      if digits.isEmpty || mark.isSome || maxHex < n then none
      else return (.whole n, rest.drop digits.length)
    else decimalValue negative unsigned
  | _, _, _ => decimalValue negative unsigned
where
  decimalValue (negative : Bool) (cs : List Char) : Option (Value × List Char) := do
    let (text, rest) ← decimal? cs
    if text.all Char.isDigit then
      let n : Nat := Double.valueOf text
      let n : Int := if negative then -n else n
      if Number.minWhole ≤ n ∧ n < -Number.minWhole then return (.whole n, rest) else none
    else
      match ← Double.decimal? negative text with
      | .infinite _ => none
      | x => return (.real x, rest)

/-! ## Values -/

mutual

def value? : (fuel : Nat) → List Char → Option (Value × List Char)
  | 0, _ => none
  | fuel + 1, cs =>
    match cs with
    | '[' :: rest => (items? fuel (gap rest)).map fun (vs, rest) => (.list vs, rest)
    | '\x7b' :: rest => (members? fuel [] (gap rest)).map fun (es, rest) => (.table es, rest)
    | 'n' :: rest => (after? "ull".toList rest).map fun rest => (.nothing, rest)
    | 't' :: rest => (after? "rue".toList rest).map fun rest => (.flag true, rest)
    | 'f' :: rest => (after? "alse".toList rest).map fun rest => (.flag false, rest)
    | c :: rest =>
      if isQuote c then (text? c rest).map fun (s, rest) => (.text s, rest)
      else number? cs
    | [] => none

def items? : (fuel : Nat) → List Char → Option (List Value × List Char)
  | 0, _ => none
  | _, ']' :: rest => some ([], rest)
  | fuel + 1, cs => do
    let (v, rest) ← value? fuel cs
    match gap rest with
    | ',' :: rest => (items? fuel (gap rest)).map fun (vs, rest) => (v :: vs, rest)
    | ']' :: rest => some ([v], rest)
    | _ => none

/-- Members up to the closing brace; of members of one name the last counts. -/
def members? : (fuel : Nat) → List (String × Value) → List Char →
    Option (List (String × Value) × List Char)
  | 0, _, _ => none
  | _, es, '\x7d' :: rest => some (es, rest)
  | fuel + 1, es, cs => do
    let (name, rest) ← name? cs
    let (v, rest) ← value? fuel (gap (← after? [':'] (gap rest)))
    let es := Value.put name v es
    match gap rest with
    | ',' :: rest => members? fuel es (gap rest)
    | '\x7d' :: rest => some (es, rest)
    | _ => none

end

/-- The entries of a JSON5 file, which must be one object. A value nests no deeper than it has
characters, so the fuel suffices. -/
def read? (text : String) : Option (List (String × Value)) := do
  match ← value? (2 * text.length + 1) (gap text.toList) with
  | (.table es, rest) => if (gap rest).isEmpty then some es else none
  | _ => none

end KeyCustody.Settings.Json5
