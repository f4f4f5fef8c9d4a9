import KeyCustody.Settings.Yaml.Quoted

/-!
# Tokens of YAML

The tokens of a text, from left to right. A colon with a gap after it makes a key of the last
candidate.
-/

namespace KeyCustody.Settings.Yaml

/-! ## Names -/

/-- The characters up to a gap or a separator of flow collections. -/
def name : Scan String := do
  let text := (← get).rest.takeWhile fun c => !(isGap c || isFlow c)
  skip text.length
  return String.ofList text

/-- The name of a node, or a reference to it. -/
def anchor : Scan Token := do
  offerKey
  allowKey false
  let isAlias := (← peek 0) = '*'
  skip 1
  let name ← name
  require (!name.isEmpty)
  return if isAlias then .alias name else .anchor name

/-- What the handle of two exclamation marks stands for. -/
def coreHandle : String := "tag:yaml.org,2002:"

def tag : Scan Token := do
  offerKey
  allowKey false
  let t ← if (← peek 1) = '<' then do
      let text := (← get).rest.takeWhile fun c => c ≠ '>' && !isGap c
      skip text.length
      require ((← peek 0) = '>')
      skip 1
      pure (Token.tag "" (String.ofList (text.drop 2)))
    else do
      skip 1
      let text := (← name).toList
      match text with
      | '!' :: suffix =>
        require (!suffix.isEmpty)
        pure (.tag coreHandle (String.ofList suffix))
      | _ =>
        require (!text.contains '!')
        pure (.tag (if text.isEmpty then "" else "!") (String.ofList text))
  let c ← peek 0
  require (isGap c || (← get).inFlow && isFlow c)
  return t

/-! ## Indicators -/

def maxFlowLevel : Nat := 255

def flowStart (t : Token) : Scan Unit := do
  offerKey
  pad
  require ((← get).flowLevel < maxFlowLevel)
  modify fun s => { s with candidates := .none :: s.candidates }
  allowKey true
  skip 1
  let _ ← skipToLineEnd true
  push t

/-- The end of a flow collection. After it a value may follow its colon at once. -/
def flowEnd (t : Token) : Scan Unit := do
  dropKey
  modify fun s => if s.inFlow then { s with candidates := s.candidates.tail } else s
  allowKey false
  skip 1
  let _ ← skipToLineEnd true
  modify fun s => if s.inFlow then { s with adjacentAt := s.mark.index } else s
  push t

def flowEntry : Scan Unit := do
  dropKey
  allowKey true
  skip 1
  let _ ← skipToLineEnd true
  push .flowEntry

def blockEntry : Scan Unit := do
  let s ← get
  require (!s.inFlow && s.allowsKey)
  skip 1
  beginBlock .blockSequence s.column none
  let blanks ← skipToLineEnd true
  require (!(blanks.contains '\t' && (← peek 0) = '-' && isGap (← peek 1)))
  let c ← peek 0
  if isBreak c || isFlow c then pad
  dropKey
  allowKey true
  push .blockEntry

/-- A question mark in front of a key. -/
def complexKey : Scan Unit := do
  let s ← get
  if !s.inFlow then
    require s.allowsKey
    beginBlock .blockMapping s.column none
  dropKey
  allowKey !s.inFlow
  skip 1
  let before := (← get).mark.index
  let c ← peek 0
  if c ≠ '\t' then skipAllGaps
  require (before < (← get).mark.index && (← peek 0) ≠ '\t')
  push .key

/-- A colon after a key. -/
def value : Scan Unit := do
  let s ← get
  let column := s.column
  skip 1
  if (← peek 0) = '\t' then
    let blanks ← skipToLineEnd true
    let c ← peek 0
    require (blanks.contains ' ' || !(c = '-' || c.isAlphanum || c = '_'))
  match s.candidates with
  | [] => failure
  | c :: cs =>
    if c.isPossible then
      insert .key c.token
      beginBlock .blockMapping c.mark.column (some c.token)
      pad
      modify fun s => { s with candidates := { c with isPossible := false } :: cs }
      allowKey false
    else
      if !s.inFlow then
        require s.allowsKey
        beginBlock .blockMapping column none
      pad
      allowKey !s.inFlow
    push .value

/-- A line at the start of a document that says how it is to be read. -/
def directive : Scan Unit := do
  endBlocks (-1)
  dropKey
  allowKey false
  skipLine
  push .directive

/-- A line between documents. -/
def documentMark (t : Token) : Scan Unit := do
  endBlocks (-1)
  dropKey
  allowKey false
  skip 3
  push t
  if t = .documentEnd then
    let _ ← skipToLineEnd true
    require (isBreakOrEnd (← peek 0))

/-! ## Tokens -/

/-- A text that is a token, and may be a key. -/
def scalar (isPlain : Bool) (text : Scan (List Char)) : Scan Unit := do
  let text ← text
  push (.scalar isPlain (String.ofList text))

def quoted (quote : Char) : Scan (List Char) := do
  offerKey
  allowKey false
  let text ← quotedText quote
  skipAllGaps
  modify fun s => { s with adjacentAt := s.mark.index }
  return text

def plain : Scan (List Char) := do
  offerKey
  allowKey false
  plainText

def block (isLiteral : Bool) : Scan (List Char) := do
  offerKey
  allowKey true
  blockText isLiteral

/-- The next token, by the character it starts with. -/
def token : Scan Unit := do
  let s ← get
  let c ← peek 0
  let next ← peek 1
  if s.mark.column = 0 && c = '%' then directive
  else if ← atMarker '-' then documentMark .documentStart
  else if ← atMarker '.' then documentMark .documentEnd
  else
    require (s.indent ≤ s.column)
    let isAdjacent := s.inFlow && (isFlow next || s.mark.index = s.adjacentAt)
    match c with
    | '[' => flowStart .flowSequence
    | '\x7b' => flowStart .flowMapping
    | ']' => flowEnd .flowSequenceEnd
    | '\x7d' => flowEnd .flowMappingEnd
    | ',' => flowEntry
    | '*' | '&' => anchor >>= push
    | '!' => tag >>= push
    | '"' | '\x27' => scalar false (quoted c)
    | '-' => if isGap next then blockEntry else scalar true plain
    | '?' => if isGap next then complexKey else scalar true plain
    | ':' => if isGap next || isAdjacent then value else scalar true plain
    | '|' => if s.inFlow then scalar true plain else scalar false (block true)
    | '>' => if s.inFlow then scalar true plain else scalar false (block false)
    | '%' | '@' => failure
    | _ => if c.toNat = 0x60 then failure else scalar true plain

def tokens : (fuel : Nat) → Scan Unit
  | 0 => failure
  | fuel + 1 => do
    skipAllGaps
    dropDistantKeys
    endBlocks (← get).column
    let s ← get
    if s.rest.isEmpty then
      require (!s.candidates.any fun c => c.isPossible && c.isRequired)
      endBlocks (-1)
    else
      token
      tokens fuel

/-- The tokens of a text. Every one of them takes a character, so the fuel suffices. -/
def Token.read? (text : String) : Option (List Token) :=
  ((tokens (text.length + 1)).run (.ofText text)).map (·.2.tokens)

end KeyCustody.Settings.Yaml
