import KeyCustody.Settings.Variables
import KeyCustody.Text.Letter

/-!
# Files of variables

Lines of the form `NAME=value`. A value may be quoted, then over several lines too, and may refer to
other variables by `$NAME` or `${NAME}`, but not between single quotes. Reading stops at the first
line that is malformed, and what stands before it counts.
-/

namespace KeyCustody.Settings.VariableFile

open Text

/-! ## Lines -/

/-- How far the quotes of a line are open. -/
inductive Quotation where
  | closed
  | afterBlank
  | escape
  | weak
  | weakEscape
  | strong
  | strongEscape
  deriving DecidableEq

/-- The state after a character, where a comment cannot begin. -/
def Quotation.next (q : Quotation) (c : Char) : Quotation :=
  match q with
  | closed | afterBlank =>
    if q = closed ∧ isBlank c ∧ c ≠ '\n' ∧ c ≠ '\r' then afterBlank
    else if c = '\\' then escape
    else if c = '"' then weak
    else if c.toNat = 0x27 then strong
    else closed
  | escape => closed
  | weak => if c = '\\' then weakEscape else if c = '"' then closed else weak
  | weakEscape => weak
  | strong => if c = '\\' then strongEscape else if c.toNat = 0x27 then closed else strong
  | strongEscape => strong

/-- Reads a line, with its line break, up to its end or to a comment in it. -/
def scan : Quotation → List Char → Option Quotation × List Char
  | q, [] => (some q, [])
  | q, c :: cs =>
    if q = .afterBlank ∧ c = '#' then (none, [])
    else
      let (q, text) := scan (q.next c) cs
      (q, c :: text)

def rawLines : List Char → List (List Char)
  | [] => []
  | c :: cs =>
    if c = '\n' then [c] :: rawLines cs
    else
      match rawLines cs with
      | [] => [[c]]
      | line :: lines => (c :: line) :: lines

def dropBreak (line : List Char) : List Char :=
  match line.reverse with
  | '\n' :: '\r' :: cs => cs.reverse
  | '\n' :: cs => cs.reverse
  | _ => line

def isComment (line : List Char) : Bool :=
  (line.dropWhile isBlank).head? = some '#'

/-- The lines after quotes have been followed over line breaks; `none` stands for one that is never
closed. -/
def lines (q : Quotation) (before : List Char) : List (List Char) → List (Option (List Char))
  | [] => if q = .closed then [] else [none]
  | line :: rest =>
    if isComment (before ++ line) then lines .closed [] rest
    else
      match scan q line with
      | (none, text) => some (before ++ text) :: lines .closed [] rest
      | (some .closed, text) => some (dropBreak (before ++ text)) :: lines .closed [] rest
      | (some q, text) => lines q (before ++ text) rest

/-! ## Values -/

/-- The text of a variable: of one that is set, else of one that stands in a line before. -/
def resolve (vars known : Variables) (name : String) : String :=
  ((vars.lookup name).or (known.lookup name)).getD ""

/-- Whether a character can go on with the name of a variable that has no braces. -/
def isNameChar (c : Char) : Bool :=
  isAlphanumeric c

inductive Mode where
  | plain
  /-- Blanks after the value, or a comment. -/
  | ended
  | escape
  | strong
  /-- The name of a variable, in braces or not. -/
  | name (inBraces : Bool) (letters : List Char)

structure Progress where
  mode : Mode
  /-- Whether the text is between double quotes. -/
  weak : Bool
  output : List Char

/-- The output after the value of a variable. -/
def substitute (look : String → String) (letters output : List Char) : List Char :=
  output ++ (look (String.ofList letters)).toList

/-- A character of a value that is not part of anything longer. -/
def plainStep (p : Progress) (c : Char) : Progress :=
  if c = '$' then { p with mode := .name false [] }
  else if p.weak then
    if c = '"' then { p with mode := .plain, weak := false }
    else if c = '\\' then { p with mode := .escape }
    else { p with mode := .plain, output := p.output ++ [c] }
  else if c.toNat = 0x27 then { p with mode := .strong }
  else if c = '"' then { p with mode := .plain, weak := true }
  else if c = '\\' then { p with mode := .escape }
  else if c = ' ' || c = '\t' then { p with mode := .ended }
  else { p with mode := .plain, output := p.output ++ [c] }

/-- The value up to a comment, or nothing if it is malformed. -/
def value? (look : String → String) : Progress → List Char → Option Progress
  | p, [] => some p
  | p, c :: cs =>
    match p.mode with
    | .ended =>
      if c = ' ' || c = '\t' then value? look p cs else if c = '#' then some p else none
    | .escape =>
      if c = 'n' then value? look { p with mode := .plain, output := p.output ++ ['\n'] } cs
      else if c = '\\' || c.toNat = 0x27 || c = '"' || c = '$' || c = ' ' then
        value? look { p with mode := .plain, output := p.output ++ [c] } cs
      else none
    | .strong =>
      if c.toNat = 0x27 then value? look { p with mode := .plain } cs
      else value? look { p with output := p.output ++ [c] } cs
    | .name inBraces letters =>
      if isNameChar c then value? look { p with mode := .name inBraces (letters ++ [c]) } cs
      else if inBraces then
        if c = '}' then
          value? look { p with mode := .plain, output := substitute look letters p.output } cs
        else value? look { p with mode := .name true (letters ++ [c]) } cs
      else if c = '{' && letters.isEmpty then value? look { p with mode := .name true [] } cs
      else
        let output := substitute look letters p.output
        if c = '$' then value? look { p with mode := .name false [], output := output } cs
        else value? look { p with mode := .plain, output := output ++ [c] } cs
    | .plain => value? look (plainStep p c) cs

/-- The text of a value; quotes and braces must be closed. -/
def valueText? (look : String → String) (cs : List Char) : Option String := do
  let p ← value? look ⟨.plain, false, []⟩ cs
  if p.weak then none
  match p.mode with
  | .strong => none
  | .name true _ => none
  | .name false letters => some (String.ofList (substitute look letters p.output))
  | _ => some (String.ofList p.output)

/-! ## Files -/

def skipBlanks (cs : List Char) : List Char :=
  cs.dropWhile isBlank

def name? (cs : List Char) : Option (String × List Char) :=
  match cs with
  | c :: _ =>
    if c.isAlpha || c = '_' then
      let letters := cs.takeWhile fun c => c.isAlphanum || c = '_' || c = '.'
      some (String.ofList letters, skipBlanks (cs.drop letters.length))
    else none
  | [] => none

def afterEquals? : List Char → Option (List Char)
  | '=' :: cs => some (skipBlanks cs)
  | _ => none

/-- The name and value of a line; the word `export` may stand before them. -/
def assignment? (look : String → String) (cs : List Char) : Option (String × String) := do
  let (name, rest) ← name? cs
  let (name, rest) ← match name, afterEquals? rest with
    | name, some rest => some (name, rest)
    | "export", none => do
      let (name, rest) ← name? rest
      pure (name, ← afterEquals? rest)
    | _, none => none
  match rest with
  | [] => some (name, "")
  | '#' :: _ => some (name, "")
  | rest => some (name, ← valueText? look rest)

/-- A line without blanks around it. -/
def stripped (cs : List Char) : List Char :=
  stripWhere isBlank cs

/-- Sets the variables of lines that are not set yet, up to the first malformed line. -/
def setAll : List (Option (List Char)) → (vars known : Variables) → Variables
  | [], vars, _ => vars
  | none :: _, vars, _ => vars
  | some line :: rest, vars, known =>
    match stripped line with
    | [] => setAll rest vars known
    | '#' :: _ => setAll rest vars known
    | cs =>
      match assignment? (resolve vars known) cs with
      | none => vars
      | some (name, text) =>
        setAll rest (Variables.addMissing [(name, text)] vars) ((name, text) :: known)

/-- The variables after a file has added those that were missing. -/
def load (text : String) (vars : Variables) : Variables :=
  let cs := match text.toList with
    | c :: cs => if c.toNat = 0xFEFF then cs else c :: cs
    | [] => []
  setAll (lines .closed [] (rawLines cs)) vars []

end KeyCustody.Settings.VariableFile
