import KeyCustody.Logging.Pattern
import KeyCustody.Number.Double
import KeyCustody.Settings.Basic
import KeyCustody.Text.Letter
import KeyCustody.Text.Number
import KeyCustody.Text.Quoted

/-!
# Log filters

A filter is a list of directives between commas. A directive is a level, or names what it is about —
a target, a span in brackets, fields of the span in braces and patterns for them — and possibly a
level for it. A directive is taken apart without the blanks at its ends, but its parts are cut out
at the same places with these blanks, so blanks before it move all of its parts.
-/

namespace KeyCustody.Logging

open Text

/-- A byte within a character of more bytes, at which a text was to be cut. -/
structure Cut where
  isEnd : Bool
  place : Nat
  char : Char
  /-- The place of the character's first byte. -/
  first : Nat
  deriving DecidableEq, Repr

def Cut.text (c : Cut) : String :=
  (if c.isEnd then "end" else "start") ++ " byte index " ++ toString c.place ++
    " is not a char boundary; it is inside '" ++ String.ofList (Quoted.escape c.char) ++
    "' (bytes " ++ toString c.first ++ ".." ++ toString (c.first + c.char.utf8Size) ++
    " of string)"

inductive FilterFault where
  | directive
  | level
  | pattern (fault : Pattern.Fault)
  /-- Not even the fault can be told. -/
  | cut (c : Cut)
  deriving DecidableEq, Repr

namespace FilterFault

def text : FilterFault → String
  | directive => "invalid filter directive"
  | level =>
    "error parsing level filter: expected one of \"off\", \"error\", \"warn\", \"info\", " ++
      "\"debug\", \"trace\", or a number 0-5"
  | pattern .malformed => "invalid field filter: error building NFA"
  | pattern .wordEdge =>
    "invalid field filter: unsupported regex feature for DFAs: cannot build DFAs for regexes " ++
      "with Unicode word boundaries; switch to ASCII word boundaries, or heuristically enable " ++
      "Unicode word boundaries or use a different regex engine"
  | cut c => c.text

end FilterFault

/-! ## Parts of a directive -/

/-- The text from a byte on; `first` is the place of the first byte that is left. -/
def dropBytes (first : Nat) (text : List Char) (place : Nat) :
    Except FilterFault (List Char) :=
  match text with
  | [] => .ok []
  | c :: cs =>
    if place ≤ first then .ok (c :: cs)
    else if first + c.utf8Size ≤ place then dropBytes (first + c.utf8Size) cs place
    else .error (.cut ⟨false, place, c, first⟩)

/-- The text up to a byte. -/
def takeBytes (first : Nat) (text : List Char) (place : Nat) :
    Except FilterFault (List Char) :=
  match text with
  | [] => .ok []
  | c :: cs =>
    if place ≤ first then .ok []
    else if first + c.utf8Size ≤ place then
      (takeBytes (first + c.utf8Size) cs place).map (c :: ·)
    else .error (.cut ⟨true, place, c, first⟩)

/-- The text between two bytes. -/
def between (text : List Char) (start stop : Nat) : Except FilterFault (List Char) := do
  takeBytes start (← dropBytes 0 text start) stop

/-- Names of levels, in any case, or numbers up to five; an empty text stands for one too. -/
def isLevel (cs : List Char) : Bool :=
  let text := String.ofList cs
  cs.isEmpty || ["off", "error", "warn", "info", "debug", "trace"].contains (lower text) ||
    (natural? 5 text).isSome

/-- Checks a field: a name, and possibly a value that is a number or else a pattern. -/
def checkField (cs : List Char) : Except FilterFault Unit :=
  match splitWhere (· = '=') cs with
  | _ :: value :: _ =>
    if (Double.read? (String.ofList value)).isSome then .ok ()
    else (Pattern.check value).mapError .pattern
  | _ => if cs.isEmpty then .error .directive else .ok ()

/-! ## Directives -/

/-- Where in a directive one is, and where the part begins that is being read. -/
inductive Place where
  | start
  | target (first : Nat)
  | span (first : Nat)
  | field (first : Nat)
  | afterFields
  | afterSpan
  | level (first : Nat)

def isFirst (c : Char) : Bool :=
  c = '-' || c = ':' || c = '_' || isAlphanumeric c

/-- The place after a character, the byte `i` of a directive. -/
def Place.next (text : List Char) (p : Place) (i : Nat) (c : Char) :
    Except FilterFault Place := do
  match p with
  | start =>
    if c = '[' then return span (i + 1)
    else if isFirst c then return target i
    else throw .directive
  | target first =>
    if c = '=' then
      let _ ← between text first i
      return level (i + 1)
    else if c = '[' then
      let _ ← between text first i
      return span (i + 1)
    else return p
  | span first =>
    if c = ']' then
      let _ ← between text first i
      return afterSpan
    else if c = '{' then
      let _ ← between text first i
      return field (i + 1)
    else return p
  | field first =>
    if c = '}' then
      checkField (← between text first i)
      return afterFields
    else return p
  | afterFields => if c = ']' then return afterSpan else throw .directive
  | afterSpan => if c = '=' then return level (i + 1) else throw .directive
  | level _ => return p

/-- The place after a text whose first byte is `i`. -/
def Place.after (text : List Char) : Place → (i : Nat) → List Char → Except FilterFault Place
  | p, _, [] => .ok p
  | p, i, c :: cs => do
    let p ← p.next text i c
    p.after text (i + c.utf8Size) cs

def checkDirective (cs : List Char) : Except FilterFault Unit := do
  match ← Place.start.after cs 0 (stripWhere isBlank cs) with
  | .target first =>
    let _ ← dropBytes 0 cs first
  | .afterSpan => return ()
  | .level first => if !isLevel (← dropBytes 0 cs first) then throw .level
  | _ => throw .directive

/-- Checks a filter; empty directives are skipped. -/
def checkFilter (text : String) : Except FilterFault Unit :=
  ((splitWhere (· = ',') text.toList).filter fun d => !d.isEmpty).forM checkDirective

/-! ## Starting -/

inductive StartFault where
  | error (e : Error)
  /-- Nothing but a text can be told. -/
  | broken (text : String)

/-- Starts logging with the filter of the settings. Only the first start succeeds. -/
def start (isStarted : Bool) (settings : Settings.Logging) : Except StartFault Unit :=
  match checkFilter settings.level with
  | .error (.cut c) => .error (.broken c.text)
  | .error fault => .error (.error (.config ("Invalid log level: " ++ fault.text)))
  | .ok () =>
    if isStarted then
      .error (.error (.config
        "Failed to install subscriber: a global default trace dispatcher has already been set"))
    else .ok ()

end KeyCustody.Logging
