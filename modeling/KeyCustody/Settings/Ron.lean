import KeyCustody.Settings.Value
import KeyCustody.Text.Hex
import KeyCustody.Text.Letter

/-!
# RON files

Nested values as a programmer writes them: records in parentheses with or without a name, tuples,
lists, maps, options, characters and texts, and comments. A name alone is the value nothing.
-/

namespace KeyCustody.Settings.Ron

open Text

/-! ## Blanks and comments -/

def isGap (c : Char) : Bool :=
  let n := c.toNat
  (9 ≤ n && n ≤ 13) || n = 0x20 || n = 0x85 || n = 0x200E || n = 0x200F || n = 0x2028 || n = 0x2029

/-- What follows a comment in which so many are open. -/
def afterComment? : (opened : Nat) → List Char → Option (List Char)
  | opened, '/' :: '*' :: cs => afterComment? (opened + 1) cs
  | 0, '*' :: '/' :: cs => some cs
  | opened + 1, '*' :: '/' :: cs => afterComment? opened cs
  | opened, _ :: cs => afterComment? opened cs
  | _, [] => none

def skip? : (fuel : Nat) → List Char → Option (List Char)
  | 0, _ => none
  | fuel + 1, cs =>
    match cs.dropWhile isGap with
    | '/' :: '/' :: cs => skip? fuel (cs.dropWhile (· ≠ '\n'))
    | '/' :: '*' :: cs => (afterComment? 0 cs).bind (skip? fuel)
    | '/' :: _ => none
    | cs => some cs

/-- Skips as far as the text goes. -/
def gap? (cs : List Char) : Option (List Char) :=
  skip? (cs.length + 1) cs

/-! ## Words -/

def startsWord (c : Char) : Bool :=
  c = '_' || isAlphabetic c

def isWordChar (c : Char) : Bool :=
  c = '_' || isAlphanumeric c

/-- A name, which is not the start of a text or of bytes. -/
def word? (cs : List Char) : Option (String × List Char) :=
  let quotes := ["b\"", "b\x27", "br#", "br\"", "r\"", "r#\"", "r##"]
  if quotes.any fun q => (after? q.toList cs).isSome then none
  else
    let (isRaw, cs) := match cs with
      | 'r' :: '#' :: cs => (true, cs)
      | cs => (false, cs)
    let name := cs.takeWhile fun c => isWordChar c || isRaw && ['.', '+', '-'].contains c
    if name.isEmpty || !isRaw && !name.head?.any startsWord then none
    else some (String.ofList name, cs.drop name.length)

/-! ## Numbers -/

def isFloatChar (c : Char) : Bool :=
  c.isDigit || ['e', 'E', '.', '+', '-', '_'].contains c

/-- The value of digits in a base, between which there may be underscores. -/
def digits? (base : Nat) (cs : List Char) : Option Nat :=
  if cs.isEmpty || cs.head? = some '_' then none
  else (cs.filter (· ≠ '_')).foldlM (fun n c => do
    let d ← hexDigit? c
    if d < base then some (n * base + d) else none) 0

def whole? (negative : Bool) (n : Nat) : Option Value :=
  let n : Int := if negative then -n else n
  if -9223372036854775808 ≤ n ∧ n ≤ 18446744073709551615 then some (.whole n) else none

/-- Whether underscores stand only after digits and signs of a power of ten. -/
def isSpaced : (allowed : Bool) → List Char → Bool
  | _, [] => true
  | allowed, c :: cs =>
    if c = '_' then allowed && isSpaced allowed cs
    else isSpaced (c ≠ '.' && (allowed || c.isDigit || c = 'e' || c = 'E')) cs

/-- A number: whole if it can be, in base ten or another that is named before it. -/
def number? (cs : List Char) : Option (Value × List Char) :=
  let (negative, unsigned) := match cs with
    | '-' :: cs => (true, cs)
    | '+' :: cs => (false, cs)
    | cs => (false, cs)
  let based (base : Nat) (cs : List Char) : Option (Value × List Char) := do
    let text := cs.takeWhile fun c => isHexDigit c || c = '_'
    let n ← digits? base text
    return (← whole? negative n, cs.drop text.length)
  match unsigned with
  | '0' :: 'x' :: cs => based 16 cs
  | '0' :: 'o' :: cs => based 8 cs
  | '0' :: 'b' :: cs => based 2 cs
  | _ =>
    match word? unsigned with
    | some (name, rest) =>
      if name = "inf" then some (.real (.infinite negative), rest)
      else if name = "NaN" then some (.real .nan, rest)
      else none
    | none =>
      let text := unsigned.takeWhile isFloatChar
      let rest := unsigned.drop text.length
      match digits? 10 text >>= whole? negative with
      | some v => some (v, rest)
      | none =>
        if text.head? ≠ some '_' && isSpaced false text then
          (Double.decimal? negative (text.filter (· ≠ '_'))).map fun x => (.real x, rest)
        else none

/-! ## Texts -/

/-- The character that stands after a backslash. -/
def escape? (cs : List Char) : Option (Char × List Char) :=
  match cs with
  | 'n' :: cs => some ('\n', cs)
  | 'r' :: cs => some ('\r', cs)
  | 't' :: cs => some ('\t', cs)
  | '0' :: cs => some (Char.ofNat 0, cs)
  | 'x' :: a :: b :: cs => do
    let n := (← hexDigit? a) * 16 + (← hexDigit? b)
    if n < 128 then some (Char.ofNat n, cs) else none
  | 'u' :: '\x7b' :: cs => do
    let digits := cs.takeWhile (· ≠ '\x7d')
    let n ← hexNumber? digits
    if digits.isEmpty || 6 < digits.length || (Nat.isValidChar n : Bool) = false then none
    match cs.drop digits.length with
    | _ :: cs => some (Char.ofNat n, cs)
    | [] => none
  | c :: cs => if ['"', '\\', '\x27'].contains c then some (c, cs) else none
  | [] => none

/-- A text up to its closing quote. -/
def quoted? : (fuel : Nat) → List Char → Option (List Char × List Char)
  | 0, _ => none
  | _, [] => none
  | _, '"' :: cs => some ([], cs)
  | fuel + 1, '\\' :: cs => do
    let (c, cs) ← escape? cs
    (quoted? fuel cs).map fun (text, rest) => (c :: text, rest)
  | fuel + 1, c :: cs => (quoted? fuel cs).map fun (text, rest) => (c :: text, rest)

/-- A text up to a quote with as many number signs after it as there were before. -/
def raw? (ending : List Char) : List Char → Option (List Char × List Char)
  | [] => none
  | c :: cs =>
    match after? ending (c :: cs) with
    | some rest => some ([], rest)
    | none => (raw? ending cs).map fun (text, rest) => (c :: text, rest)

/-- A text or a character in quotes. -/
def text? (cs : List Char) : Option (String × List Char) :=
  let found := match cs with
    | '"' :: cs => quoted? (cs.length + 1) cs
    | 'r' :: cs =>
      let signs := cs.takeWhile (· = '#')
      match cs.drop signs.length with
      | '"' :: cs => raw? ('"' :: signs) cs
      | _ => none
    | '\x27' :: '\\' :: cs => do
      let (c, cs) ← escape? cs
      (after? ['\x27'] cs).map fun rest => ([c], rest)
    | '\x27' :: c :: '\x27' :: rest => if c = '\x27' then none else some ([c], rest)
    | _ => none
  found.map fun (text, rest) => (String.ofList text, rest)

/-! ## Values -/

/-- Whether a record in parentheses has names for its fields. -/
def isNamed (cs : List Char) : Bool :=
  match word? cs with
  | some (_, rest) => ((gap? rest).bind List.head?) = some ':'
  | none => false

/-- The value of a word that is one by itself. -/
def constant? (name : String) : Option Value :=
  if name = "true" then some (.flag true)
  else if name = "false" then some (.flag false)
  else if name = "None" then some .nothing
  else if ["inf", "inff32", "inff64"].contains name then some (.real (.infinite false))
  else if ["NaN", "NaNf32", "NaNf64"].contains name then some (.real .nan)
  else none

/-- How deep a value may be nested inside another. -/
def lower? : Nat → Option Nat
  | 0 => none
  | depth + 1 => some depth

mutual

/-- A value, nested no deeper than `depth`. -/
def value? : (fuel depth : Nat) → List Char → Option (Value × List Char)
  | 0, _, _ => none
  | fuel + 1, depth, cs =>
    match word? cs with
    | some (name, rest) =>
      match constant? name with
      | some v => some (v, rest)
      | none => do
        let rest ← gap? rest
        match rest with
        | '(' :: rest =>
          if name = "Some" then do
            let (v, rest) ← value? fuel (← lower? depth) (← gap? rest)
            let rest ← gap? rest
            let rest ← gap? ((after? [','] rest).getD rest)
            (after? [')'] rest).map fun rest => (v, rest)
          else record? fuel depth rest
        | rest => if name = "Some" then none else some (.nothing, rest)
    | none =>
      match cs with
      | '(' :: ')' :: rest => some (.nothing, rest)
      | '(' :: rest => record? fuel depth rest
      | '[' :: rest => do
        let (vs, rest) ← items? fuel (← lower? depth) ']' (← gap? rest)
        return (.list vs, rest)
      | '\x7b' :: rest => do
        let (es, rest) ← entries? fuel (← lower? depth) false '\x7d' [] (← gap? rest)
        return (.table es, rest)
      | cs =>
        match text? cs with
        | some (s, rest) => some (.text s, rest)
        | none => number? cs

/-- What stands in parentheses: a record, or values without names. -/
def record? : (fuel depth : Nat) → List Char → Option (Value × List Char)
  | 0, _, _ => none
  | fuel + 1, depth, cs => do
    let cs ← gap? cs
    let depth ← lower? depth
    if isNamed cs then
      (entries? fuel depth true ')' [] cs).map fun (es, rest) => (.table es, rest)
    else (items? fuel depth ')' cs).map fun (vs, rest) => (.list vs, rest)

/-- Values with commas between them, up to a bracket. -/
def items? : (fuel depth : Nat) → (close : Char) → List Char → Option (List Value × List Char)
  | 0, _, _, _ => none
  | _, _, _, [] => none
  | fuel + 1, depth, close, c :: cs =>
    if c = close then some ([], cs)
    else do
      let (v, rest) ← value? fuel depth (c :: cs)
      match ← gap? rest with
      | ',' :: rest =>
        (items? fuel depth close (← gap? rest)).map fun (vs, rest) => (v :: vs, rest)
      | rest => (after? [close] rest).map fun rest => ([v], rest)

/-- Names and values with commas between them, up to a bracket. In a map the names are texts. -/
def entries? : (fuel depth : Nat) → (areWords : Bool) → (close : Char) →
    List (String × Value) → List Char → Option (List (String × Value) × List Char)
  | 0, _, _, _, _, _ => none
  | _, _, _, _, _, [] => none
  | fuel + 1, depth, areWords, close, es, c :: cs =>
    if c = close then some (es, cs)
    else do
      let (name, rest) ← if areWords then word? (c :: cs) else text? (c :: cs)
      let (v, rest) ← value? fuel depth (← gap? (← after? [':'] (← gap? rest)))
      let es := Value.put name v es
      match ← gap? rest with
      | ',' :: rest => entries? fuel depth areWords close es (← gap? rest)
      | rest => (after? [close] rest).map fun rest => (es, rest)

end

/-! ## Files -/

def maxDepth : Nat := 128

/-- What may be asked for at the start of a file. None of it changes what settings mean. -/
def extensions : List String :=
  ["unwrap_newtypes", "implicit_some", "unwrap_variant_newtypes", "explicit_struct_names"]

/-- Parts that follow each other with gaps between them. -/
def afterAll? : List String → List Char → Option (List Char)
  | [], cs => some cs
  | part :: parts, cs => do afterAll? parts (← gap? (← after? part.toList cs))

/-- Names of extensions with commas between them. -/
def afterExtensions? : (fuel : Nat) → List Char → Option (List Char)
  | 0, _ => none
  | fuel + 1, cs => do
    let (name, rest) ← word? cs
    if !extensions.contains name then none
    match ← gap? rest with
    | ',' :: rest =>
      let rest ← gap? rest
      if rest.head?.any startsWord then afterExtensions? fuel rest else some rest
    | rest => some rest

/-- What follows the attributes at the start of a file. -/
def afterAttributes? : (fuel : Nat) → List Char → Option (List Char)
  | 0, _ => none
  | fuel + 1, cs => do
    let cs ← gap? cs
    if cs.head? = some '#' then
      let rest ← afterAll? ["#", "!", "[", "enable", "("] cs
      afterAttributes? fuel (← afterAll? [")", "]"] (← afterExtensions? (rest.length + 1) rest))
    else some cs

/-- The entries of a RON file, which must be one record or map. -/
def read? (text : String) : Option (List (String × Value)) := do
  let cs ← afterAttributes? (text.length + 1) text.toList
  let (v, rest) ← value? (2 * text.length + 2) maxDepth cs
  match v, ← gap? rest with
  | .table es, [] => some es
  | _, _ => none

end KeyCustody.Settings.Ron
