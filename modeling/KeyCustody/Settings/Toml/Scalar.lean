import KeyCustody.Settings.Value
import KeyCustody.Text.Hex
import KeyCustody.Time.Calendar

/-!
# Scalars of TOML

Strings, numbers, booleans and dates as TOML writes them. A date is no kind of value by itself, and
is kept as its text.
-/

namespace KeyCustody.Settings.Toml

open Text

/-- Characters that may stand in strings and comments: no controls but tabs. -/
def isPlain (c : Char) : Bool :=
  c = '\t' || (0x20 ≤ c.toNat && c.toNat ≠ 0x7F)

def lineBreak? : List Char → Option (List Char)
  | '\n' :: cs => some cs
  | '\r' :: '\n' :: cs => some cs
  | _ => none

/-! ## Strings -/

/-- The character with a code point of so many hexadecimal digits. -/
def codePoint? (width : Nat) (cs : List Char) : Option (Char × List Char) := do
  let digits := cs.take width
  if digits.length ≠ width then none
  let n ← digits.foldlM (fun n c => do return n * 16 + (← hexDigit? c)) 0
  if n.isValidChar then some (Char.ofNat n, cs.drop width) else none

/-- What an escape stands for, after its backslash. -/
def escape? : List Char → Option (Char × List Char)
  | 'u' :: cs => codePoint? 4 cs
  | 'U' :: cs => codePoint? 8 cs
  | 'x' :: cs => codePoint? 2 cs
  | c :: cs =>
    if c = '"' || c = '\\' then some (c, cs)
    else if c = 'b' then some (Char.ofNat 8, cs)
    else if c = 't' then some ('\t', cs)
    else if c = 'n' then some ('\n', cs)
    else if c = 'f' then some (Char.ofNat 12, cs)
    else if c = 'r' then some ('\r', cs)
    else if c = 'e' then some (Char.ofNat 0x1B, cs)
    else none
  | [] => none

/-- A string in double quotes, up to the closing one. -/
def basic? : Nat → List Char → Option (List Char × List Char)
  | 0, _ => none
  | fuel + 1, cs =>
    match cs with
    | '"' :: rest => some ([], rest)
    | '\\' :: rest => do
      let (c, rest) ← escape? rest
      let (text, rest) ← basic? fuel rest
      some (c :: text, rest)
    | c :: rest =>
      if isPlain c then (basic? fuel rest).map fun (text, rest) => (c :: text, rest) else none
    | [] => none

/-- A string in single quotes, up to the closing one. -/
def literal? : List Char → Option (List Char × List Char)
  | [] => none
  | c :: rest =>
    if c.toNat = 0x27 then some ([], rest)
    else if isPlain c then (literal? rest).map fun (text, rest) => (c :: text, rest)
    else none

/-- The end of a string over several lines: three quotes, and up to two before them that belong to
the string. -/
def closing? (quote : Char) (cs : List Char) : Option (List Char × List Char) :=
  let count := (cs.takeWhile (· = quote)).length
  if 3 ≤ count then
    let extra := min 2 (count - 3)
    some (List.replicate extra quote, cs.drop (extra + 3))
  else none

/-- The text after a backslash at the end of a line: all blanks and line breaks are dropped. -/
def continued? (cs : List Char) : Option (List Char) :=
  let rest := cs.dropWhile fun c => c = ' ' || c = '\t'
  (lineBreak? rest).map fun rest =>
    rest.dropWhile fun c => c = ' ' || c = '\t' || c = '\n' || c = '\r'

/-- A string over several lines, in double quotes. -/
def multiBasic? : Nat → List Char → Option (List Char × List Char)
  | 0, _ => none
  | fuel + 1, cs =>
    match closing? '"' cs with
    | some end_ => some end_
    | none =>
      match cs with
      | '\\' :: rest =>
        match continued? rest with
        | some rest => multiBasic? fuel rest
        | none => do
          let (c, rest) ← escape? rest
          let (text, rest) ← multiBasic? fuel rest
          some (c :: text, rest)
      | '\r' :: '\n' :: rest =>
        (multiBasic? fuel rest).map fun (text, rest) => ('\r' :: '\n' :: text, rest)
      | c :: rest =>
        if isPlain c || c = '\n' then
          (multiBasic? fuel rest).map fun (text, rest) => (c :: text, rest)
        else none
      | [] => none

/-- A string over several lines, in single quotes. -/
def multiLiteral? : Nat → List Char → Option (List Char × List Char)
  | 0, _ => none
  | fuel + 1, cs =>
    match closing? (Char.ofNat 0x27) cs with
    | some end_ => some end_
    | none =>
      match cs with
      | '\r' :: '\n' :: rest =>
        (multiLiteral? fuel rest).map fun (text, rest) => ('\r' :: '\n' :: text, rest)
      | c :: rest =>
        if isPlain c || c = '\n' then
          (multiLiteral? fuel rest).map fun (text, rest) => (c :: text, rest)
        else none
      | [] => none

/-- A line break right after the opening quotes does not count. -/
def afterFirstBreak (cs : List Char) : List Char :=
  (lineBreak? cs).getD cs

/-- A string of any kind, if the text begins with a quote. -/
def string? (cs : List Char) : Option (String × List Char) :=
  let fuel := cs.length + 1
  let apostrophe := Char.ofNat 0x27
  let found := match cs with
    | '"' :: '"' :: '"' :: rest => multiBasic? fuel (afterFirstBreak rest)
    | '"' :: rest => basic? fuel rest
    | a :: b :: c :: rest =>
      if a = apostrophe && b = apostrophe && c = apostrophe then
        multiLiteral? fuel (afterFirstBreak rest)
      else if a = apostrophe then literal? (b :: c :: rest)
      else none
    | a :: rest => if a = apostrophe then literal? rest else none
    | [] => none
  found.map fun (text, rest) => (String.ofList text, rest)

/-! ## Numbers -/

/-- Digits without the underscores between them; one may stand only between two digits. -/
def ungrouped? (isDigit : Char → Bool) (cs : List Char) : Option (List Char) :=
  if (splitWhere (· = '_') cs).all fun part => !part.isEmpty && part.all isDigit then
    some (cs.filter (· ≠ '_'))
  else none

def inBase? (base : Nat) (cs : List Char) : Option Int := do
  let digits ← ungrouped? (fun c => (hexDigit? c).any (· < base)) cs
  let n : Nat := digits.foldl (fun n c => n * base + (hexDigit? c).getD 0) 0
  if n ≤ 9223372036854775807 then some n else none

def sign (cs : List Char) : Bool × List Char :=
  match cs with
  | '-' :: cs => (true, cs)
  | '+' :: cs => (false, cs)
  | cs => (false, cs)

/-- Digits without a zero in front of others. -/
def leading? (cs : List Char) : Option (List Char) := do
  let digits ← ungrouped? Char.isDigit cs
  match digits with
  | '0' :: _ :: _ => none
  | digits => some digits

def integer? (cs : List Char) : Option Int :=
  match cs with
  | '0' :: 'x' :: cs => inBase? 16 cs
  | '0' :: 'o' :: cs => inBase? 8 cs
  | '0' :: 'b' :: cs => inBase? 2 cs
  | cs => do
    let (negative, cs) := sign cs
    let n : Nat := (← leading? cs).foldl (fun n c => n * 10 + (c.toNat - 48)) 0
    let n : Int := if negative then -(n : Int) else n
    if -9223372036854775808 ≤ n ∧ n ≤ 9223372036854775807 then some n else none

/-- A number with a fraction or an exponent that is not too large, or a word for no number. -/
def real? (cs : List Char) : Option Double := do
  let (negative, cs) := sign cs
  match String.ofList cs with
  | "inf" => some (.infinite negative)
  | "nan" => some .nan
  | _ =>
    let isLetter (c : Char) : Bool := c = 'e' || c = 'E'
    let mantissa := cs.takeWhile fun c => !isLetter c
    let power := cs.drop mantissa.length
    let whole := mantissa.takeWhile (· ≠ '.')
    let fraction := mantissa.drop whole.length
    let digits ← leading? whole
    let places ← match fraction with
      | [] => some []
      | _ :: cs => ungrouped? Char.isDigit cs
    let exponent ← match power with
      | [] => some 0
      | _ :: cs => do
        let (negative, cs) := sign cs
        let n : Nat := (← ungrouped? Char.isDigit cs).foldl (fun n c => n * 10 + (c.toNat - 48)) 0
        pure (if negative then -(n : Int) else n)
    if fraction.isEmpty && power.isEmpty then none
    else
      let value := Double.valueOf (digits ++ places)
      match Double.ofDecimal negative value (exponent - places.length) with
      | .infinite _ => none
      | x => some x

/-! ## Dates -/

/-- Exactly so many digits, and what follows them. -/
def digits? (width : Nat) (cs : List Char) : Option (Nat × List Char) :=
  let ds := cs.take width
  if ds.length = width && ds.all Char.isDigit then some (Double.valueOf ds, cs.drop width) else none

def mark? (c : Char) : List Char → Option (List Char)
  | d :: cs => if d = c then some cs else none
  | [] => none

def date? (cs : List Char) : Option (List Char) := do
  let (year, cs) ← digits? 4 cs
  let (month, cs) ← digits? 2 (← mark? '-' cs)
  let (day, cs) ← digits? 2 (← mark? '-' cs)
  if (Time.Date.mk year month day).isReal then some cs else none

/-- A fraction of a second in its normal form, no finer than nanoseconds, and what follows it. -/
def fraction? (cs : List Char) : Option (List Char × List Char) :=
  match cs with
  | '.' :: rest =>
    let places := rest.takeWhile Char.isDigit
    let kept := ((places.take 9).reverse.dropWhile (· = '0')).reverse
    if places.isEmpty then none
    else some ('.' :: (if kept.isEmpty then ['0'] else kept), rest.drop places.length)
  | cs => some ([], cs)

/-- A time of day in its normal form, and what follows it. The seconds may be left out. -/
def clock? (cs : List Char) : Option (List Char × List Char) := do
  let (hour, rest) ← digits? 2 cs
  let (minute, rest) ← digits? 2 (← mark? ':' rest)
  if 23 < hour ∨ 59 < minute then none
  match rest with
  | ':' :: rest =>
    let (second, rest) ← digits? 2 rest
    if 60 < second then none
    let (fraction, rest) ← fraction? rest
    some (cs.take 8 ++ fraction, rest)
  | rest => some (cs.take 5, rest)

/-- An offset from UTC in its normal form, in which none is positive; nothing must follow it. -/
def offset? (cs : List Char) : Option (List Char) :=
  match cs with
  | [] => some []
  | ['Z'] => some ['Z']
  | ['z'] => some ['Z']
  | c :: rest => do
    if c ≠ '+' ∧ c ≠ '-' then none
    let (hour, rest) ← digits? 2 rest
    let (minute, rest) ← digits? 2 (← mark? ':' rest)
    if rest.isEmpty ∧ hour ≤ 23 ∧ minute ≤ 59 then
      some (if hour = 0 ∧ minute = 0 then '+' :: cs.tail else cs)
    else none

/-- A date, a time, or both, in the normal form. -/
def dateTime? (cs : List Char) : Option (List Char) :=
  match date? cs with
  | some [] => some cs
  | some (c :: rest) => do
    if c ≠ 'T' ∧ c ≠ 't' ∧ c ≠ ' ' then none
    let (time, rest) ← clock? rest
    some (cs.take 10 ++ 'T' :: time ++ (← offset? rest))
  | none => do
    let (time, rest) ← clock? cs
    if rest.isEmpty then some time else none

/-! ## Words -/

def endsWord (c : Char) : Bool :=
  [' ', '\t', '\n', '\r', ',', ']', '}', '#', '='].contains c

/-- The characters of a value that is no string; a blank may stand between a date and a time. -/
def word (cs : List Char) : List Char × List Char :=
  let first := cs.takeWhile fun c => !endsWord c
  let rest := cs.drop first.length
  match rest with
  | ' ' :: c :: more =>
    if c.isDigit && (date? first) = some [] then
      let second := (c :: more).takeWhile fun c => !endsWord c
      (first ++ ' ' :: second, (c :: more).drop second.length)
    else (first, rest)
  | _ => (first, rest)

def wordValue? (cs : List Char) : Option Value :=
  if cs = "true".toList then some (.flag true)
  else if cs = "false".toList then some (.flag false)
  else
    ((integer? cs).map Value.whole).or <|
      ((real? cs).map Value.real).or <| (dateTime? cs).map fun cs => .text (String.ofList cs)

end KeyCustody.Settings.Toml
