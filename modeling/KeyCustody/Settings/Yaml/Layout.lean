/-!
# The layout of YAML

What is known of a text as it is read from left to right: the tokens so far, how far the open blocks
are indented, and which of the tokens may turn out to be a key when a colon follows. A token that
turns out to be one gets another in front of it, and may begin a block.
-/

namespace KeyCustody.Settings.Yaml

/-! ## Characters -/

/-- What stands for the end of the text. -/
def nul : Char := Char.ofNat 0

def isBreak (c : Char) : Bool := c = '\n' || c = '\r'

def isBlank (c : Char) : Bool := c = ' ' || c = '\t'

def isBreakOrEnd (c : Char) : Bool := isBreak c || c = nul

def isGap (c : Char) : Bool := isBlank c || isBreakOrEnd c

/-- The characters that separate flow collections. -/
def isFlow (c : Char) : Bool := [',', '[', ']', '\x7b', '\x7d'].contains c

/-! ## Tokens -/

inductive Token where
  | directive
  | documentStart
  | documentEnd
  | blockSequence
  | blockMapping
  | blockEnd
  | flowSequence
  | flowSequenceEnd
  | flowMapping
  | flowMappingEnd
  | blockEntry
  | flowEntry
  | key
  | value
  | alias (name : String)
  | anchor (name : String)
  | tag (handle suffix : String)
  | scalar (isPlain : Bool) (text : String)
  deriving DecidableEq, Repr

structure Mark where
  index : Nat
  line : Nat
  column : Nat

/-- A token that may be a key. -/
structure Candidate where
  isPossible : Bool
  /-- Whether it has to be one, because of where it stands. -/
  isRequired : Bool
  /-- Its number among the tokens. -/
  token : Nat
  mark : Mark

def Candidate.none : Candidate := ⟨false, false, 0, ⟨0, 0, 0⟩⟩

/-- An indentation that was left for a deeper one. -/
structure Indent where
  column : Int
  /-- Whether the deeper one is that of a block, which has an end. -/
  isBlock : Bool

structure Layout where
  rest : List Char
  mark : Mark
  tokens : List Token
  /-- How far the innermost block is indented. -/
  indent : Int
  indents : List Indent
  /-- The candidates, one for each flow collection and one for the blocks, the innermost first. -/
  candidates : List Candidate
  /-- Whether a key may begin here. -/
  allowsKey : Bool
  /-- Whether only blanks stand before this place on its line. -/
  atLineStart : Bool
  /-- Where a value may follow its colon without a blank. -/
  adjacentAt : Nat

abbrev Scan := StateT Layout Option

namespace Layout

def ofText (text : String) : Layout :=
  ⟨text.toList.takeWhile (· ≠ nul), ⟨0, 0, 0⟩, [], -1, [], [.none], true, true, 0⟩

def flowLevel (s : Layout) : Nat := s.candidates.length - 1

def inFlow (s : Layout) : Bool := s.flowLevel ≠ 0

def column (s : Layout) : Int := s.mark.column

end Layout

/-! ## Moving -/

/-- The character that stands so far ahead. -/
def peek (ahead : Nat) : Scan Char :=
  return (← get).rest.getD ahead nul

def require (condition : Bool) : Scan Unit :=
  if condition then pure () else failure

/-- Skips blanks, which do not end the beginning of a line. -/
def skipBlanks (count : Nat) : Scan Unit :=
  modify fun s =>
    let mark := { s.mark with index := s.mark.index + count, column := s.mark.column + count }
    { s with rest := s.rest.drop count, mark := mark }

def skip (count : Nat) : Scan Unit := do
  skipBlanks count
  modify fun s => { s with atLineStart := false }

def skipBreak : Scan Unit := do
  let count := if (← peek 0) = '\r' && (← peek 1) = '\n' then 2 else 1
  modify fun s =>
    let mark : Mark := ⟨s.mark.index + count, s.mark.line + 1, 0⟩
    { s with rest := s.rest.drop count, mark := mark, atLineStart := true }

/-- Skips what stands before the end of the line. -/
def skipLine : Scan Unit := do
  skip ((← get).rest.takeWhile fun c => !isBreakOrEnd c).length

/-- Skips blanks, and a comment that is set off by blanks, up to the end of the line. Answers what
blanks there were. -/
def skipToLineEnd (tabs : Bool) : Scan (List Char) := do
  let blanks := (← get).rest.takeWhile fun c => c = ' ' || (tabs && c = '\t')
  skipBlanks blanks.length
  if (← peek 0) = '#' then
    require (!blanks.isEmpty)
    skipLine
  return blanks

/-- Whether three such characters stand at the start of a line, with a gap after them. -/
def atMarker (c : Char) : Scan Bool := do
  let s ← get
  return s.mark.column = 0 && s.rest.take 3 = [c, c, c] && isGap (s.rest.getD 3 nul)

def atDocumentMark : Scan Bool :=
  return (← atMarker '-') || (← atMarker '.')

/-! ## Tokens and keys -/

def push (t : Token) : Scan Unit :=
  modify fun s => { s with tokens := s.tokens ++ [t] }

/-- Puts a token in front of one that is there already. -/
def insert (t : Token) (before : Nat) : Scan Unit :=
  modify fun s => { s with tokens := s.tokens.take before ++ t :: s.tokens.drop before }

def allowKey (allows : Bool) : Scan Unit :=
  modify fun s => { s with allowsKey := allows }

/-- Makes the next token a candidate, if a key may begin here. -/
def offerKey : Scan Unit :=
  modify fun s =>
    if s.allowsKey then
      let isRequired := !s.inFlow && s.indent = s.column && s.indents.head?.any (·.isBlock)
      let candidate := ⟨true, isRequired, s.tokens.length, s.mark⟩
      { s with candidates := candidate :: s.candidates.tail }
    else s

/-- Gives up the innermost candidate. -/
def dropKey : Scan Unit := do
  let s ← get
  match s.candidates with
  | [] => failure
  | c :: cs =>
    require (!(c.isPossible && c.isRequired))
    set { s with candidates := { c with isPossible := false } :: cs }

/-- Gives up candidates that are too far away: outside of flow collections a key stands on one line,
and is short. -/
def dropDistantKeys : Scan Unit := do
  let s ← get
  let isDistant (c : Candidate) : Bool :=
    c.isPossible && !s.inFlow &&
      (c.mark.line < s.mark.line || c.mark.index + 1024 < s.mark.index)
  require (!s.candidates.any fun c => isDistant c && c.isRequired)
  let drop (c : Candidate) : Candidate := if isDistant c then { c with isPossible := false } else c
  set { s with candidates := s.candidates.map drop }

/-! ## Indentation -/

/-- The indentation and those it was left for, after all that are deeper than a column have ended,
and how many blocks end with them. -/
def unwind (column : Int) : (indent : Int) → List Indent → Int × List Indent × Nat
  | indent, [] => (indent, [], 0)
  | indent, i :: is =>
    if column < indent then
      let (indent, left, ends) := unwind column i.column is
      (indent, left, if i.isBlock then ends + 1 else ends)
    else (indent, i :: is, 0)

/-- Ends the blocks that are indented further than a column. -/
def endBlocks (column : Int) : Scan Unit :=
  modify fun s =>
    if s.inFlow then s
    else
      let (indent, indents, ends) := unwind column s.indent s.indents
      let tokens := s.tokens ++ List.replicate ends .blockEnd
      { s with tokens := tokens, indent := indent, indents := indents }

/-- Forgets indentations that did not begin a block. -/
def dropPadding : Scan Unit :=
  modify fun s =>
    let padding := s.indents.takeWhile fun i => !i.isBlock
    let indent := (padding.getLast?.map (·.column)).getD s.indent
    { s with indent := indent, indents := s.indents.drop padding.length }

/-- Indents by one column without beginning a block. -/
def pad : Scan Unit :=
  modify fun s =>
    if !s.inFlow && s.indents.head?.any (·.isBlock) then
      { s with indents := ⟨s.indent, false⟩ :: s.indents, indent := s.indent + 1 }
    else s

/-- Begins a block if a column is indented further than the last. Its token goes to the end, or in
front of another. -/
def beginBlock (t : Token) (column : Int) (before : Option Nat) : Scan Unit := do
  if !(← get).inFlow then
    modify fun s =>
      match s.indents with
      | i :: is =>
        if s.indent ≤ column && !i.isBlock then { s with indent := i.column, indents := is } else s
      | [] => s
    let s ← get
    if s.indent < column then
      set { s with indents := ⟨s.indent, true⟩ :: s.indents, indent := column }
      match before with
      | some n => insert t n
      | none => push t

/-! ## Between tokens -/

/-- Skips blanks, line breaks and comments. Tabs do not indent. -/
def skipGaps : (fuel : Nat) → Scan Unit
  | 0 => failure
  | fuel + 1 => do
    let s ← get
    let c ← peek 0
    if c = '\t' && !s.indents.isEmpty && s.atLineStart && s.column < s.indent then
      let _ ← skipToLineEnd true
      require (isBreakOrEnd (← peek 0))
      skipGaps fuel
    else if isBlank c then
      skipBlanks 1
      skipGaps fuel
    else if isBreak c then
      skipBreak
      if !s.inFlow then allowKey true
      skipGaps fuel
    else if c = '#' then
      skipLine
      skipGaps fuel

/-- Skips as far as the text goes. -/
def skipAllGaps : Scan Unit := do
  skipGaps ((← get).rest.length + 1)

end KeyCustody.Settings.Yaml
