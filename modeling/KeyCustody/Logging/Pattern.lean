import KeyCustody.Text.Hex
import KeyCustody.Text.Letter
import KeyCustody.Text.Blank

/-!
# Patterns

The regular expressions that values of fields are compared with. Only their form matters here: which
texts are patterns, and which patterns cannot be used. The characters of other scripts are not
sorted into classes or by case, so what asks for that is refused unless it is limited to ASCII.
-/

namespace KeyCustody.Logging

open Text

namespace Pattern

/-- A single character, which may be written as a byte. -/
structure Literal where
  char : Char
  isByte : Bool
  deriving DecidableEq, Repr

/-- What a pattern is switched to by the letters of a group. -/
structure Switches where
  on : List Char
  off : List Char
  deriving DecidableEq, Repr

/-- The characters that a class in brackets lists. -/
inductive CharClass where
  | empty
  /-- A character, or the ends of a range. -/
  | literals (ends : List Literal)
  /-- A class of ASCII by its name between colons. -/
  | named (negated : Bool)
  /-- Digits, blanks or letters by an escape. -/
  | short (negated : Bool)
  | set (negated : Bool) (inner : CharClass)
  | union (items : List CharClass)
  | operation (left right : CharClass)

end Pattern

open Pattern

inductive Pattern where
  | empty
  | switches (s : Switches)
  | literal (l : Literal)
  | anyChar
  | edge
  /-- A place where a word begins or ends, or where none does. -/
  | wordEdge
  | short (negated : Bool)
  | bracketed (c : CharClass)
  | repeated (p : Pattern)
  | group (s : Switches) (p : Pattern)
  | choice (ps : List Pattern)
  | row (ps : List Pattern)

namespace Pattern

/-! ## Depth -/

mutual

def CharClass.depth : CharClass → Nat
  | set _ inner => inner.depth + 1
  | union items => CharClass.depthOfAll items + 1
  | operation left right => max left.depth right.depth + 1
  | _ => 0

def CharClass.depthOfAll : List CharClass → Nat
  | [] => 0
  | c :: cs => max c.depth (CharClass.depthOfAll cs)

end

mutual

def depth : Pattern → Nat
  | bracketed c => c.depth
  | repeated p => p.depth + 1
  | group _ p => p.depth + 1
  | choice ps => depthOfAll ps + 1
  | row ps => depthOfAll ps + 1
  | _ => 0

def depthOfAll : List Pattern → Nat
  | [] => 0
  | p :: ps => max p.depth (depthOfAll ps)

end

def maxDepth : Nat := 250

/-! ## Reading characters -/

/-- The text after blanks, and comments up to the end of their lines. -/
def skipGaps (inComment : Bool) : List Char → List Char
  | [] => []
  | c :: cs =>
    if inComment then skipGaps (c ≠ '\n') cs
    else if isBlank c then skipGaps false cs
    else if c = '#' then skipGaps true cs
    else c :: cs

/-- The text after gaps, which count only where a pattern is not spaced out. -/
def gaps (spaced : Bool) (cs : List Char) : List Char :=
  if spaced then skipGaps false cs else cs

/-- The first character after gaps, of which a comment ends at its first character. -/
def peek? (spaced : Bool) (cs : List Char) : Option Char :=
  if spaced then
    match cs.dropWhile isBlank with
    | '#' :: rest => (rest.dropWhile isBlank).head?
    | rest => rest.head?
  else cs.head?

def hex? (spaced : Bool) : (count value : Nat) → List Char → Option (Nat × List Char)
  | 0, n, cs => some (n, cs)
  | count + 1, n, c :: cs => do hex? spaced count (n * 16 + (← hexDigit? c)) (gaps spaced cs)
  | _ + 1, _, [] => none

def codePoint? (spaced : Bool) (count : Nat) (cs : List Char) : Option (Char × List Char) := do
  let (n, rest) ← hex? spaced count 0 (gaps spaced cs)
  if n.isValidChar then some (Char.ofNat n, rest) else none

def controls : List (Char × Nat) :=
  [('a', 7), ('f', 12), ('t', 9), ('n', 10), ('r', 13), ('v', 11)]

/-- Whether a character stands for itself after a backslash. -/
def isSign (c : Char) : Bool :=
  c.toNat < 128 && !c.isAlphanum && c ≠ '<' && c ≠ '>'

/-- What an escape stands for, after its backslash. -/
def escape? (spaced : Bool) : List Char → Option (Pattern × List Char)
  | [] => none
  | c :: cs =>
    let literal (isByte : Bool) (found : Char × List Char) : Pattern × List Char :=
      (.literal ⟨found.1, isByte⟩, found.2)
    if c = 'x' then (codePoint? spaced 2 cs).map (literal true)
    else if c = 'u' then (codePoint? spaced 4 cs).map (literal false)
    else if c = 'U' then (codePoint? spaced 8 cs).map (literal false)
    else if ['d', 's', 'w'].contains c then some (.short false, cs)
    else if ['D', 'S', 'W'].contains c then some (.short true, cs)
    else if ['A', 'z'].contains c then some (.edge, cs)
    else if ['b', 'B', '<', '>'].contains c then some (.wordEdge, cs)
    else if isSign c then some (literal false (c, cs))
    else (controls.lookup c).map fun n => literal false (Char.ofNat n, cs)

/-! ## Classes -/

/-- A text that is not at its end. -/
def more? (cs : List Char) : Option (List Char) :=
  if cs.isEmpty then none else some cs

def classPart? (spaced : Bool) : List Char → Option (Pattern × List Char)
  | [] => none
  | '\\' :: cs => escape? spaced cs
  | c :: cs => some (.literal ⟨c, false⟩, cs)

/-- What a part means by itself. -/
def classItem? : Pattern → Option CharClass
  | .literal l => some (.literals [l])
  | .short negated => some (.short negated)
  | _ => none

/-- A part of a class, or a range between two characters. -/
def classRange? (spaced : Bool) (cs : List Char) : Option (CharClass × List Char) := do
  let (first, rest) ← classPart? spaced cs
  match ← more? (gaps spaced rest) with
  | '-' :: after =>
    if peek? spaced after = some ']' ∨ peek? spaced after = some '-' then
      return (← classItem? first, '-' :: after)
    else
      let (last, rest) ← classPart? spaced (gaps spaced after)
      match first, last with
      | .literal a, .literal b =>
        if a.char ≤ b.char then some (.literals [a, b], rest) else none
      | _, _ => none
  | rest => return (← classItem? first, rest)

def classNames : List String :=
  ["alnum", "alpha", "ascii", "blank", "cntrl", "digit", "graph", "lower", "print", "punct",
    "space", "upper", "word", "xdigit"]

/-- The name of a class between colons, after its opening bracket. -/
def named? (cs : List Char) : Option (Bool × List Char) := do
  let rest ← after? [':'] cs
  let (negated, rest) := match rest with
    | '^' :: rest => (true, rest)
    | rest => (false, rest)
  let name := rest.takeWhile (· ≠ ':')
  let rest ← after? [':', ']'] (rest.drop name.length)
  if classNames.contains (String.ofList name) then some (negated, rest) else none

/-- Hyphens at the beginning of a class, which stand for themselves. -/
def hyphens? (spaced : Bool) : (fuel : Nat) → List Char → Option (List CharClass × List Char)
  | fuel + 1, '-' :: cs => do
    let (items, rest) ← hyphens? spaced fuel (← more? (gaps spaced cs))
    return (.literals [⟨'-', false⟩] :: items, rest)
  | _, cs => some ([], cs)

/-- The beginning of a class after its bracket: whether it is negated, and the hyphens or the
bracket that stand for themselves there. -/
def opening? (spaced : Bool) (cs : List Char) :
    Option (Bool × List CharClass × List Char) := do
  let cs ← more? (gaps spaced cs)
  let (negated, cs) ← match cs with
    | '^' :: cs => (more? (gaps spaced cs)).map fun cs => (true, cs)
    | cs => some (false, cs)
  match ← hyphens? spaced cs.length cs with
  | ([], ']' :: cs) => return (negated, [.literals [⟨']', false⟩]], ← more? (gaps spaced cs))
  | (items, cs) => return (negated, items, cs)

/-- The class of what has been listed, the last item first, after an operator or not. -/
def listed (left : Option CharClass) (items : List CharClass) : CharClass :=
  let right := match items with
    | [] => .empty
    | [item] => item
    | items => .union items.reverse
  left.elim right fun left => .operation left right

/-- The rest of a class up to its closing bracket. -/
def classItems? (spaced : Bool) :
    (fuel : Nat) → (left : Option CharClass) → (items : List CharClass) → List Char →
      Option (CharClass × List Char)
  | 0, _, _, _ => none
  | fuel + 1, left, items, cs =>
    match gaps spaced cs with
    | ']' :: rest => some (listed left items, rest)
    | '&' :: '&' :: rest | '-' :: '-' :: rest | '~' :: '~' :: rest =>
      classItems? spaced fuel (some (listed left items)) [] rest
    | '[' :: rest =>
      match named? rest with
      | some (negated, rest) => classItems? spaced fuel left (.named negated :: items) rest
      | none => do
        let (negated, first, rest) ← opening? spaced rest
        let (inner, rest) ← classItems? spaced fuel none first.reverse rest
        classItems? spaced fuel left (.set negated inner :: items) rest
    | cs => do
      let (item, rest) ← classRange? spaced cs
      classItems? spaced fuel left (item :: items) rest

def class? (spaced : Bool) (cs : List Char) : Option (Pattern × List Char) := do
  let (negated, first, rest) ← opening? spaced cs
  let (inner, rest) ← classItems? spaced (rest.length + 1) none first.reverse rest
  return (.bracketed (.set negated inner), rest)

/-! ## Groups -/

def switchLetters : List Char := ['i', 'm', 's', 'U', 'u', 'R', 'x', '-']

/-- Switches up to the character that ends them; those after a hyphen are turned off. -/
def switches? (cs : List Char) : Option (Switches × List Char) :=
  let letters := cs.takeWhile fun c => c ≠ ':' && c ≠ ')'
  let off := letters.dropWhile (· ≠ '-')
  if letters.all switchLetters.contains ∧ letters.Nodup ∧ off ≠ ['-'] ∧
      letters.length < cs.length then
    some (⟨letters.takeWhile (· ≠ '-'), off.drop 1⟩, cs.drop letters.length)
  else none

/-- Whether a switch is on, given how it was before. -/
def Switches.get (s : Switches) (letter : Char) (before : Bool) : Bool :=
  (before || s.on.contains letter) && !s.off.contains letter

def isNameChar (c : Char) : Bool :=
  c = '_' || c = '.' || c = '[' || c = ']' || isAlphanumeric c

/-- The name of a group up to its closing mark. -/
def name? (cs : List Char) : Option (String × List Char) :=
  let name := cs.takeWhile (· ≠ '>')
  match name, cs.drop name.length with
  | c :: more, _ :: rest =>
    if (c = '_' || isAlphabetic c) && more.all isNameChar then some (String.ofList name, rest)
    else none
  | _, _ => none

/-- How a group begins, after its bracket. -/
inductive Opening where
  /-- Switches for the rest of the group around. -/
  | switches (s : Switches)
  | group (s : Switches) (name : Option String)

def groupOpening? (cs : List Char) : Option (Opening × List Char) :=
  let none_ : Switches := ⟨[], []⟩
  match cs with
  | '?' :: '!' :: _ | '?' :: '=' :: _ | '?' :: '<' :: '!' :: _ | '?' :: '<' :: '=' :: _ => none
  | '?' :: 'P' :: '<' :: cs | '?' :: '<' :: cs =>
    (name? cs).map fun (name, rest) => (.group none_ (some name), rest)
  | '?' :: cs => do
    let (s, rest) ← switches? cs
    match rest with
    | ')' :: rest => if s = none_ then none else some (.switches s, rest)
    | rest => some (.group s none, rest.drop 1)
  | cs => some (.group none_ none, cs)

/-! ## Patterns -/

/-- What is kept in mind while reading: whether the pattern is spaced out, and the names of groups.
-/
structure Reading where
  spaced : Bool
  names : List String

/-- A row of items, the last one first. -/
def rowOf (items : List Pattern) : Pattern :=
  match items with
  | [] => .empty
  | [p] => p
  | items => .row items.reverse

/-- Choices that are complete, the last one first, and the items of the one that is not. -/
def choiceOf (choices items : List Pattern) : Pattern :=
  if choices.isEmpty then rowOf items else .choice (rowOf items :: choices).reverse

/-- The items after the last one has been repeated. -/
def repeatLast? : List Pattern → Option (List Pattern)
  | [] => none
  | .switches _ :: _ => none
  | p :: ps => some (.repeated p :: ps)

/-- The rest of a group up to its closing bracket, or to the end. -/
def items? : (fuel : Nat) → Reading → (choices items : List Pattern) → List Char →
    Option (Pattern × Reading × List Char)
  | 0, _, _, _, _ => none
  | fuel + 1, r, choices, items, cs =>
    match gaps r.spaced cs with
    | [] => some (choiceOf choices items, r, [])
    | ')' :: rest => some (choiceOf choices items, r, ')' :: rest)
    | '|' :: rest => items? fuel r (rowOf items :: choices) [] rest
    | '(' :: rest => do
      match ← groupOpening? (gaps r.spaced rest) with
      | (.switches s, rest) =>
        items? fuel { r with spaced := s.get 'x' r.spaced } choices (.switches s :: items) rest
      | (.group s name, rest) =>
        if name.any r.names.contains then none
        else
          let inside : Reading := ⟨s.get 'x' r.spaced, name.toList ++ r.names⟩
          match ← items? fuel inside [] [] rest with
          | (p, inside, ')' :: rest) =>
            items? fuel { r with names := inside.names } choices (.group s p :: items) rest
          | _ => none
    | '[' :: rest => do
      let (p, rest) ← class? r.spaced rest
      items? fuel r choices (p :: items) rest
    | '?' :: rest | '*' :: rest | '+' :: rest => do
      let items ← repeatLast? items
      match rest with
      | '?' :: rest => items? fuel r choices items rest
      | rest => items? fuel r choices items rest
    | '{' :: _ => none
    | '\\' :: rest => do
      let (p, rest) ← escape? r.spaced rest
      items? fuel r choices (p :: items) rest
    | '.' :: rest => items? fuel r choices (.anyChar :: items) rest
    | '^' :: rest | '$' :: rest => items? fuel r choices (.edge :: items) rest
    | c :: rest => items? fuel r choices (.literal ⟨c, false⟩ :: items) rest

/-- The pattern that a text writes. Counted repetitions are refused, and so are classes of
properties, because a filter has no place for their braces. -/
def read? (text : List Char) : Option Pattern := do
  match ← items? (text.length + 1) ⟨false, []⟩ [] [] text with
  | (p, _, []) => if p.depth ≤ maxDepth then some p else none
  | _ => none

/-! ## Use -/

/-- The switches that matter for the use of a pattern. -/
structure Mode where
  /-- Whether a pattern is about characters of all scripts, and not only about ASCII. -/
  allScripts : Bool
  ignoresCase : Bool

def Mode.apply (m : Mode) (s : Switches) : Mode :=
  ⟨s.get 'u' m.allScripts, s.get 'i' m.ignoresCase⟩

def isAscii (l : Literal) : Bool := l.char.toNat < 128

mutual

def CharClass.isUsable (m : Mode) : CharClass → Bool
  | empty => true
  | literals ends => if m.allScripts then !m.ignoresCase else ends.all isAscii
  | named negated => if m.allScripts then !m.ignoresCase else !negated
  | short negated => !m.allScripts && !negated
  | set negated inner => inner.isUsable m && (m.allScripts || !negated)
  | union items => CharClass.areUsable m items
  | operation left right => left.isUsable m && right.isUsable m

def CharClass.areUsable (m : Mode) : List CharClass → Bool
  | [] => true
  | c :: cs => c.isUsable m && CharClass.areUsable m cs

end

/-- What the use of a pattern depends on: the mode after it, and whether it has asked for the edge
of a word of any script. -/
structure Demand where
  mode : Mode
  wordEdge : Bool

mutual

/-- What a pattern leaves to the patterns after it, if it can be used. -/
def demand? (d : Demand) : Pattern → Option Demand
  | empty | edge => some d
  | switches s => some { d with mode := d.mode.apply s }
  | literal l =>
    let usable := if d.mode.allScripts then !d.mode.ignoresCase else !l.isByte || isAscii l
    if usable then some d else none
  | anyChar => if d.mode.allScripts then some d else none
  | wordEdge => some { d with wordEdge := d.wordEdge || d.mode.allScripts }
  | short negated => if d.mode.allScripts || negated then none else some d
  | bracketed c => if c.isUsable d.mode then some d else none
  | repeated p => p.demand? d
  | group s p =>
    (p.demand? { d with mode := d.mode.apply s }).map fun after => { after with mode := d.mode }
  | choice ps => demandOfAll? d ps
  | row ps => demandOfAll? d ps

def demandOfAll? (d : Demand) : List Pattern → Option Demand
  | [] => some d
  | p :: ps => (p.demand? d).bind fun d => demandOfAll? d ps

end

inductive Fault where
  | malformed
  /-- The edges of words of all scripts cannot be found. -/
  | wordEdge
  deriving DecidableEq, Repr

def check (text : List Char) : Except Fault Unit :=
  match (read? text).bind fun p => p.demand? ⟨⟨true, false⟩, false⟩ with
  | none => .error .malformed
  | some d => if d.wordEdge then .error .wordEdge else .ok ()

end Pattern

end KeyCustody.Logging
