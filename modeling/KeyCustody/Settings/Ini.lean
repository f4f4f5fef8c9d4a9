import KeyCustody.Settings.Value
import KeyCustody.Text.Hex

/-!
# INI files

Sections of keys and values. Every value is a text; a quoted one may have blanks at its ends, and a
backslash gives the next character a meaning of its own. A comment takes a whole line. A section
that begins again takes the place of the one before.
-/

namespace KeyCustody.Settings.Ini

open Text

/-! ## Characters -/

/-- What a letter after a backslash stands for; others stand for themselves. -/
def meaning (c : Char) : List Char :=
  if c = '0' then [Char.ofNat 0]
  else if c = 'a' then [Char.ofNat 7]
  else if c = 'b' then [Char.ofNat 8]
  else if c = 't' then ['\t']
  else if c = 'r' then ['\r']
  else if c = 'n' then ['\n']
  else if c = '\n' then []
  else [c]

/-- The character with this number in four hexadecimal digits, of which the first may be a plus
sign. -/
def coded? (digits : List Char) : Option Char := do
  let n ← hexNumber? (if digits.head? = some '+' then digits.tail else digits)
  if n < 0xD800 || 0xDFFF < n then some (Char.ofNat n) else none

/-- The text before the first character where `stop` holds, and the rest. Without such a character
there is none, unless the text may go on to the end of the file. -/
def until? (stop : Char → Bool) (toEnd : Bool) : List Char → Option (List Char × List Char)
  | [] => if toEnd then some ([], []) else none
  | c :: cs =>
    if stop c then some ([], c :: cs)
    else if c = '\\' then
      match cs with
      | 'x' :: x₁ :: x₂ :: x₃ :: x₄ :: cs => do
        let c ← coded? [x₁, x₂, x₃, x₄]
        (until? stop toEnd cs).map fun (text, rest) => (c :: text, rest)
      | c :: cs =>
        if c = 'x' then none
        else (until? stop toEnd cs).map fun (text, rest) => (meaning c ++ text, rest)
      | [] => none
    else (until? stop toEnd cs).map fun (text, rest) => (c :: text, rest)

/-! ## Values -/

def isLineEnd (c : Char) : Bool :=
  c = '\n' || c = '\r'

/-- A value: quoted parts, and what follows them up to the end of the line. The blanks around it do
not count, but those after a quoted part do. -/
def value? : (fuel : Nat) → (isFirst : Bool) → List Char → Option (List Char × List Char)
  | 0, _, _ => none
  | fuel + 1, isFirst, cs =>
    let plain := (until? isLineEnd true cs).map fun (text, rest) =>
      (if isFirst then stripWhere isBlank text else (text.reverse.dropWhile isBlank).reverse, rest)
    match cs with
    | quote :: cs =>
      if quote = '"' || quote.toNat = 0x27 then do
        let (text, rest) ← until? (· = quote) false cs
        let (more, rest) ← value? fuel false rest.tail
        return (text ++ more, rest)
      else plain
    | [] => plain

/-! ## Files -/

/-- The entries that have been read, and the section that is open. -/
structure Reading where
  entries : List (String × Value)
  current : Option String

def Reading.openSection (r : Reading) (name : String) : Reading :=
  ⟨Value.put name (.table []) r.entries, some name⟩

def Reading.add (r : Reading) (key : String) (text : List Char) : Reading :=
  let value := Value.text (String.ofList text)
  match r.current with
  | none => { r with entries := Value.put key value r.entries }
  | some name =>
    let fields := Value.put key value (Value.entry name r.entries).entries
    { r with entries := Value.put name (.table fields) r.entries }

def trimmed (text : List Char) : String :=
  String.ofList (stripWhere isBlank text)

/-- Skips blanks; whether the text goes on at the start of a line. -/
def skipBlanks (atStart : Bool) : List Char → Bool × List Char
  | [] => (atStart, [])
  | c :: cs => if isBlank c then skipBlanks (c = '\n') cs else (atStart, c :: cs)

/-- Reads comments, sections and keys with their values. -/
def read (fuel : Nat) (atStart : Bool) (cs : List Char) (r : Reading) :
    Option (List (String × Value)) :=
  match fuel, skipBlanks atStart cs with
  | _, (_, []) => some r.entries
  | 0, _ => none
  | fuel + 1, (atStart, c :: cs) =>
    if c = ';' || c = '#' then
      if atStart then read fuel true (cs.dropWhile (· ≠ '\n')).tail r else none
    else if c = '[' then do
      let (name, rest) ← until? (· = ']') false cs
      read fuel false rest.tail (r.openSection (trimmed name))
    else do
      let (key, rest) ← until? (fun c => c = '=' || c = ':') false (c :: cs)
      if (trimmed key).isEmpty then none
      let rest := rest.tail.dropWhile fun c => isBlank c && !isLineEnd c
      let (value, rest) ← value? (rest.length + 1) true rest
      read fuel false rest (r.add (trimmed key) value)

def read? (text : String) : Option (List (String × Value)) :=
  read (text.length + 1) true text.toList ⟨[], none⟩

end KeyCustody.Settings.Ini
