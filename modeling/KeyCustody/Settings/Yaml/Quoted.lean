import KeyCustody.Settings.Yaml.Layout
import KeyCustody.Text.Hex

/-!
# Texts in YAML

Plain and quoted texts, whose line breaks are folded: a single one becomes a space, and of several
the first is left out. In block texts the line breaks may be kept.
-/

namespace KeyCustody.Settings.Yaml

open Text

/-! ## Folding -/

/-- The blanks after the last character of a text: those on its line, and line breaks. -/
structure Gap where
  blanks : List Char
  breaks : Nat

/-- What blanks amount to when the text goes on after them. -/
def Gap.fold (g : Gap) : List Char :=
  if g.breaks = 0 then g.blanks
  else if g.breaks = 1 then [' ']
  else List.replicate (g.breaks - 1) '\n'

/-! ## Plain texts -/

/-- Whether a plain text can go on with the next character. -/
def goesOn : Scan Bool := do
  let inFlow := (← get).inFlow
  let c ← peek 0
  let next ← peek 1
  return !(isGap c || inFlow && isFlow c || c = ':' && (isGap next || inFlow && isFlow next))

/-- The characters of a plain text up to the next blank. -/
def plainWord : (fuel : Nat) → Scan (List Char)
  | 0 => pure []
  | fuel + 1 => do
    if ← goesOn then
      let c ← peek 0
      skip 1
      return c :: (← plainWord fuel)
    else return []

/-- The blanks and line breaks after a plain text that is indented so far. -/
def plainGap (indent : Int) : (fuel : Nat) → Gap → Scan Gap
  | 0, g => pure g
  | fuel + 1, g => do
    let s ← get
    let c ← peek 0
    if isBlank c then
      if s.atLineStart && s.column < indent && c = '\t' then
        let _ ← skipToLineEnd true
        require (isBreakOrEnd (← peek 0))
        plainGap indent fuel g
      else
        skipBlanks 1
        plainGap indent fuel (if s.atLineStart then g else { g with blanks := g.blanks ++ [c] })
    else if isBreak c then
      skipBreak
      plainGap indent fuel ⟨[], g.breaks + 1⟩
    else return g

/-- The words of a plain text that is indented so far. -/
def plainWords (indent : Int) : (fuel : Nat) → Gap → Scan (List Char)
  | 0, _ => failure
  | fuel + 1, g => do
    let s ← get
    if (← atDocumentMark) || (← peek 0) = '#' then return []
    require (!(s.inFlow && (← peek 0) = '-' && isFlow (← peek 1)))
    let word ← plainWord s.rest.length
    let (text, g) := if word.isEmpty then ([], g) else (g.fold ++ word, ⟨[], 0⟩)
    let c ← peek 0
    if !(isBlank c || isBreak c) then return text
    let g ← plainGap indent s.rest.length g
    let s ← get
    if !s.inFlow && s.column < indent then return text
    return text ++ (← plainWords indent fuel g)

/-- A plain text, which must not be empty. -/
def plainText : Scan (List Char) := do
  dropPadding
  let s ← get
  require (!(s.inFlow && s.column < s.indent + 1))
  let text ← plainWords (s.indent + 1) (s.rest.length + 1) ⟨[], 0⟩
  if (← get).atLineStart then allowKey true
  require (!text.isEmpty)
  return text

/-! ## Quoted texts -/

def escaped? (c : Char) : Option Char :=
  [('0', 0), ('a', 7), ('b', 8), ('t', 9), ('\t', 9), ('n', 10), ('v', 11), ('f', 12), ('r', 13),
    ('e', 27), (' ', 32), ('"', 34), ('/', 47), ('\\', 92), ('N', 0x85), ('_', 0xA0),
    ('L', 0x2028), ('P', 0x2029)].lookup c |>.map Char.ofNat

/-- The character after a backslash, which may be given by its number. -/
def escape : Scan Char := do
  let letter ← peek 1
  skip 2
  match [('x', 2), ('u', 4), ('U', 8)].lookup letter with
  | some width =>
    let digits := (← get).rest.take width
    require (digits.length = width)
    let some n := hexNumber? digits | failure
    require (n < 0xD800 || 0xDFFF < n && n < 0x110000)
    skip width
    return Char.ofNat n
  | none =>
    let some c := escaped? letter | failure
    return c

/-- The characters of a quoted text up to a blank or the quote, and whether the line break that
follows is escaped. -/
def quotedWord (quote : Char) : (fuel : Nat) → Scan (List Char × Bool)
  | 0 => failure
  | fuel + 1 => do
    let c ← peek 0
    let next ← peek 1
    let isSingle := quote ≠ '"'
    let more (c : Char) : Scan (List Char × Bool) := do
      let (cs, isJoined) ← quotedWord quote fuel
      return (c :: cs, isJoined)
    if isGap c then return ([], false)
    else if c = quote then
      if isSingle && next = quote then
        skip 2
        more quote
      else return ([], false)
    else if c = '\\' && !isSingle then
      if isBreak next then
        skip 1
        skipBreak
        return ([], true)
      else more (← escape)
    else
      skip 1
      more c

/-- The blanks and line breaks in a quoted text; whether its line has begun with blanks. -/
def quotedGap : (fuel : Nat) → (isLineStart : Bool) → Gap → Scan Gap
  | 0, _, g => pure g
  | fuel + 1, isLineStart, g => do
    let s ← get
    let c ← peek 0
    if isBlank c then
      require (!(isLineStart && c = '\t' && s.column < s.indent))
      skipBlanks 1
      quotedGap fuel isLineStart (if isLineStart then g else { g with blanks := g.blanks ++ [c] })
    else if isBreak c then
      skipBreak
      quotedGap fuel true ⟨[], g.breaks + 1⟩
    else return g

/-- A quoted text up to its closing quote. -/
def quotedWords (quote : Char) : (fuel : Nat) → Scan (List Char)
  | 0 => failure
  | fuel + 1 => do
    let s ← get
    require (!(← atDocumentMark))
    require (!s.rest.isEmpty && s.indent ≤ s.column)
    let (word, isJoined) ← quotedWord quote (s.rest.length + 1)
    if (← peek 0) = quote then return word
    let g ← quotedGap s.rest.length isJoined ⟨[], 0⟩
    let gap := if isJoined then List.replicate g.breaks '\n' else g.fold
    return word ++ gap ++ (← quotedWords quote fuel)

/-- A text in quotes. After it the line ends, a key has its colon, or a flow collection goes on. -/
def quotedText (quote : Char) : Scan (List Char) := do
  let s ← get
  skip 1
  let text ← quotedWords quote (s.rest.length + 1)
  skip 1
  let _ ← skipToLineEnd true
  let c ← peek 0
  let isKey := c = ':' && (s.inFlow || s.mark.line = (← get).mark.line)
  require (isBreakOrEnd c || isKey || s.inFlow && [',', '\x7d', ']'].contains c)
  return text

/-! ## Block texts -/

inductive Ending where
  | clipped
  | stripped
  | kept
  deriving DecidableEq

def Ending.ofChar? (c : Char) : Option Ending :=
  if c = '+' then some .kept else if c = '-' then some .stripped else none

/-- An ending, if there is one. -/
def ending : Scan (Option Ending) := do
  let e := Ending.ofChar? (← peek 0)
  if e.isSome then skip 1
  return e

/-- How far a block text is indented in its block, if that is said. -/
def increment : Scan Nat := do
  let c ← peek 0
  if c.isDigit then
    require (c ≠ '0')
    skip 1
    return c.toNat - 48
  else return 0

/-- Skips indentation, up to a column, and empty lines; how many there were. -/
def skipEmptyLines (indent : Nat) : (fuel : Nat) → Scan Nat
  | 0 => pure 0
  | fuel + 1 => do
    let s ← get
    skipBlanks ((s.rest.takeWhile (· = ' ')).take (indent - s.mark.column)).length
    if isBreak (← peek 0) then
      skipBreak
      return (← skipEmptyLines indent fuel) + 1
    else return 0

/-- Skips empty lines, however they are indented; how many there were, and the deepest column. -/
def findIndent : (fuel : Nat) → Scan (Nat × Nat)
  | 0 => pure (0, 0)
  | fuel + 1 => do
    skipBlanks ((← get).rest.takeWhile (· = ' ')).length
    let column := (← get).mark.column
    if isBreak (← peek 0) then
      skipBreak
      let (breaks, deepest) ← findIndent fuel
      return (breaks + 1, max column deepest)
    else return (0, column)

/-- The lines of a block text. `before` counts the line breaks since the last of them, and
`wasBlank` says whether it began with a blank. -/
def blockLines (isLiteral : Bool) (indent : Nat) :
    (fuel : Nat) → (isFirst wasBlank : Bool) → (before : Nat) → Scan (List Char × Nat)
  | 0, _, _, _ => failure
  | fuel + 1, isFirst, wasBlank, before => do
    let s ← get
    let ends ← if indent = 0 then atMarker '.' else pure false
    if s.mark.column ≠ indent || s.rest.isEmpty || ends then return ([], before)
    let isBlank := isBlank (← peek 0)
    let gap : Gap := ⟨[], before⟩
    let gap := if !isLiteral && !isFirst && !wasBlank && !isBlank then gap.fold
      else List.replicate before '\n'
    let line := s.rest.takeWhile fun c => !isBreakOrEnd c
    skipLine
    if (← get).rest.isEmpty then return (gap ++ line, 0)
    skipBreak
    let breaks ← skipEmptyLines indent s.rest.length
    let (more, before) ← blockLines isLiteral indent fuel false isBlank (breaks + 1)
    return (gap ++ line ++ more, before)

/-- A text of the lines that are indented further than their block. -/
def blockText (isLiteral : Bool) : Scan (List Char) := do
  let start := (← get).mark
  skip 1
  dropPadding
  let before ← ending
  let increment ← increment
  let after ← if before.isNone && increment ≠ 0 then ending else pure none
  let ending := (before.or after).getD .clipped
  let _ ← skipToLineEnd true
  require (isBreakOrEnd (← peek 0))
  let hasBreak := isBreak (← peek 0)
  if hasBreak then skipBreak
  require ((← peek 0) ≠ '\t')
  let s ← get
  let (breaks, indent) ← if increment = 0 then do
      let (breaks, deepest) ← findIndent (s.rest.length + 1)
      let indent := max deepest (s.indent + 1).toNat
      pure (breaks, if 0 < s.indent then max indent 1 else indent)
    else do
      let indent := if 0 ≤ s.indent then s.indent.toNat + increment else increment
      pure (← skipEmptyLines indent (s.rest.length + 1), indent)
  let s ← get
  if s.rest.isEmpty then
    match ending with
    | .stripped => return []
    | .clipped => return if s.mark.line = start.line || !hasBreak then [] else ['\n']
    | .kept =>
      return if s.mark.line = start.line || !hasBreak then []
        else List.replicate (max breaks 1) '\n'
  require (!(s.mark.column < indent && s.indent < s.column))
  let (text, left) ← blockLines isLiteral indent (s.rest.length + 1) true false breaks
  let s ← get
  let atEnd := if s.rest.isEmpty && max indent 1 ≤ s.mark.column then ['\n'] else []
  match ending with
  | .stripped => return text
  | .clipped => return text ++ List.replicate (min left 1) '\n' ++ atEnd
  | .kept => return text ++ List.replicate left '\n' ++ atEnd

end KeyCustody.Settings.Yaml
