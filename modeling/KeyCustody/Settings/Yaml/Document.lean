import KeyCustody.Settings.Value
import KeyCustody.Settings.Yaml.Token

/-!
# YAML files

Tokens make nodes, which are texts, lists and maps. A plain text may stand for a number or another
value. A file holds at most one document.
-/

namespace KeyCustody.Settings.Yaml

open Text

/-! ## Plain texts -/

inductive Scalar where
  | nothing
  | flag (b : Bool)
  | whole (n : Int)
  | real (text : String)
  | text (s : String)
  deriving DecidableEq, Repr

namespace Scalar

def maxWhole : Int := 9223372036854775807

/-- A whole number with an optional sign, in a base. -/
def whole? (base : Nat) (cs : List Char) : Option Int := do
  let (negative, digits) := match cs with
    | '-' :: cs => (true, cs)
    | '+' :: cs => (false, cs)
    | cs => (false, cs)
  if digits.isEmpty then none
  let n : Nat ← digits.foldlM (fun n c => do
    let d ← hexDigit? c
    if d < base then some (n * base + d) else none) 0
  let n : Int := if negative then -n else n
  if -maxWhole - 1 ≤ n ∧ n ≤ maxWhole then some n else none

/-- The names of what is no finite number. -/
def specialReals : List String :=
  [".inf", ".Inf", ".INF", "+.inf", "+.Inf", "+.INF", "-.inf", "-.Inf", "-.INF", ".nan", ".NaN",
    ".NAN"]

def isReal (s : String) : Bool :=
  specialReals.contains s || s.toList.any Char.isDigit && (Double.read? s).isSome

/-- A number with the sign of its base, or a plus sign, in front. -/
def prefixed? (s : String) : Option Int :=
  match s.toList with
  | '0' :: 'x' :: cs => whole? 16 cs
  | '0' :: 'o' :: cs => whole? 8 cs
  | '+' :: cs => whole? 10 cs
  | _ => none

/-- What a plain text is taken for if nothing is said about it. -/
def ofPlain (s : String) : Scalar :=
  match prefixed? s, whole? 10 s.toList with
  | some n, _ => whole n
  | none, some n => if ["", "~", "null"].contains s then nothing else whole n
  | none, none =>
    if ["", "~", "null"].contains s then nothing
    else if s = "true" then flag true
    else if s = "false" then flag false
    else if isReal s then real s
    else text s

/-- What a plain text is taken for if its kind is said. -/
def ofTagged (handle suffix s : String) : Scalar :=
  if handle ≠ coreHandle then text s
  else
    match suffix with
    | "bool" => if s = "true" then flag true else if s = "false" then flag false else nothing
    | "int" => (whole? 10 s.toList).elim nothing whole
    | "float" => if isReal s then real s else nothing
    | "null" => nothing
    | _ => text s

/-- The value of a scalar. A number has to be a finite one, or too large. -/
def value? : Scalar → Option Value
  | nothing => some .nothing
  | flag b => some (.flag b)
  | whole n => some (.whole n)
  | real s => (Double.read? s).map .real
  | text s => some (.text s)

def name? : Scalar → Option String
  | nothing => none
  | flag b => some (if b then "true" else "false")
  | whole n => some (toString n)
  | real s => some s
  | text s => some s

end Scalar

/-! ## Nodes -/

inductive Node where
  | scalar (s : Scalar)
  | value (v : Value)

namespace Node

def nothing : Node := scalar .nothing

def value? : Node → Option Value
  | scalar s => s.value?
  | value v => some v

def scalar? : Node → Option Scalar
  | scalar s => some s
  | value _ => none

end Node

/-- What is said about a node before it: its name, and its kind. -/
structure Properties where
  anchor : Option String
  tag : Option (String × String)

def Properties.isEmpty (p : Properties) : Bool :=
  p.anchor.isNone && p.tag.isNone

def Properties.read : List Token → Properties × List Token
  | .anchor a :: .tag h s :: ts => (⟨some a, some (h, s)⟩, ts)
  | .tag h s :: .anchor a :: ts => (⟨some a, some (h, s)⟩, ts)
  | .anchor a :: ts => (⟨some a, none⟩, ts)
  | .tag h s :: ts => (⟨none, some (h, s)⟩, ts)
  | ts => (⟨none, none⟩, ts)

/-- The named nodes that have been read, the last first. -/
abbrev Anchors := List (String × Node)

/-- What a part of the tokens gives: something, the nodes that have names by then, and the tokens
after it. -/
abbrev Part (α : Type) := α × Anchors × List Token

/-- The entries of a map, with the keys as they were written. -/
abbrev Entries := List (Scalar × Value)

/-- Adds an entry, unless there is one of its key. -/
def addEntry? (key value : Node) (es : Entries) : Option Entries := do
  let k ← key.scalar?
  if (es.lookup k).isSome then none
  return es ++ [(k, ← value.value?)]

/-- The map of entries. -/
def mapping? (es : Entries) : Option Value := do
  let named ← es.mapM fun (k, v) => return (← k.name?, v)
  return .table (named.foldl (fun es (name, v) => Value.put name v es) [])

/-- Whether a token leaves out the node that could stand in front of it. -/
def leavesOut (t : Option Token) : Bool :=
  match t with
  | some .key | some .value | some .blockEnd => true
  | _ => false

mutual

/-- A node. A block may only begin where it is allowed, and a list without indentation only after a
key. -/
def node? (fuel : Nat) (inBlock afterKey : Bool) (as : Anchors) (ts : List Token) :
    Option (Part Node) :=
  match fuel, ts with
  | 0, _ => none
  | _, .alias a :: ts => (as.lookup a).map fun n => (n, as, ts)
  | fuel + 1, ts => do
    let (p, ts) := Properties.read ts
    let started := match p.anchor with
      | some a => (a, .nothing) :: as
      | none => as
    let (n, as, ts) ← content? fuel inBlock afterKey p started ts
    return (n, match p.anchor with | some a => (a, n) :: as | none => as, ts)

/-- A node after its properties. -/
def content? : (fuel : Nat) → (inBlock afterKey : Bool) → Properties → Anchors → List Token →
    Option (Part Node)
  | 0, _, _, _, _, _ => none
  | fuel + 1, inBlock, afterKey, p, as, ts =>
    match ts with
    | .scalar isPlain s :: ts =>
      let scalar := match isPlain, p.tag with
        | false, _ => .text s
        | true, some (handle, suffix) => .ofTagged handle suffix s
        | true, none => .ofPlain s
      some (.scalar scalar, as, ts)
    | .flowSequence :: ts => do
      let (vs, as, ts) ← flowItems? fuel true as ts
      return (.value (.list vs), as, ts)
    | .flowMapping :: ts => do
      let (es, as, ts) ← flowEntries? fuel true [] as ts
      return (.value (← mapping? es), as, ts)
    | t :: rest =>
      if t = .blockEntry && afterKey then do
        let (vs, as, ts) ← looseItems? fuel as ts
        return (.value (.list vs), as, ts)
      else if t = .blockSequence && inBlock then do
        let (vs, as, ts) ← blockItems? fuel as rest
        return (.value (.list vs), as, ts)
      else if t = .blockMapping && inBlock then do
        let (es, as, ts) ← blockEntries? fuel [] as rest
        return (.value (← mapping? es), as, ts)
      else if p.isEmpty then none
      else some (.nothing, as, ts)
    | [] => if p.isEmpty then none else some (.nothing, as, [])

/-- The items of a list that is indented, up to its end. -/
def blockItems? : (fuel : Nat) → Anchors → List Token → Option (Part (List Value))
  | 0, _, _ => none
  | fuel + 1, as, ts =>
    match ts with
    | .blockEnd :: ts => some ([], as, ts)
    | .blockEntry :: ts => do
      let isLeftOut := ts.head? = some .blockEntry || ts.head? = some .blockEnd
      let (n, as, ts) ← if isLeftOut then some (.nothing, as, ts) else node? fuel true false as ts
      let v ← n.value?
      let (vs, as, ts) ← blockItems? fuel as ts
      return (v :: vs, as, ts)
    | _ => none

/-- The items of a list that is indented no further than the key before it. -/
def looseItems? : (fuel : Nat) → Anchors → List Token → Option (Part (List Value))
  | 0, _, _ => none
  | fuel + 1, as, ts =>
    match ts with
    | .blockEntry :: ts => do
      let isLeftOut := ts.head? = some .blockEntry || leavesOut ts.head?
      let (n, as, ts) ← if isLeftOut then some (.nothing, as, ts) else node? fuel true false as ts
      let v ← n.value?
      let (vs, as, ts) ← looseItems? fuel as ts
      return (v :: vs, as, ts)
    | ts => some ([], as, ts)

/-- The entries of a map that is indented, up to its end. -/
def blockEntries? : (fuel : Nat) → Entries → Anchors → List Token → Option (Part Entries)
  | 0, _, _, _ => none
  | fuel + 1, es, as, ts =>
    let next (ts : List Token) (as : Anchors) : Option (Part Node) :=
      if leavesOut ts.head? then some (.nothing, as, ts) else node? fuel true true as ts
    match ts with
    | .blockEnd :: ts => some (es, as, ts)
    | t :: rest =>
      if t = .key || t = .value then do
        let (k, as, ts) ← if t = .key then next rest as else some (.nothing, as, ts)
        let (v, as, ts) ← match ts with
          | .value :: ts => next ts as
          | ts => some (.nothing, as, ts)
        blockEntries? fuel (← addEntry? k v es) as ts
      else none
    | [] => none

/-- The items of a list in brackets, up to its end. An item with a key is a map of one entry. -/
def flowItems? : (fuel : Nat) → (isFirst : Bool) → Anchors → List Token → Option (Part (List Value))
  | 0, _, _, _ => none
  | fuel + 1, isFirst, as, ts =>
    let item (ts : List Token) : Option (Part (List Value)) := do
      let (v, as, ts) ← match ts with
        | .key :: ts => do
          let (k, v, as, ts) ← flowPair? fuel [.flowSequenceEnd] as ts
          pure ((← mapping? (← addEntry? k v [])), as, ts)
        | ts => do
          let (n, as, ts) ← node? fuel false false as ts
          pure ((← n.value?), as, ts)
      let (vs, as, ts) ← flowItems? fuel false as ts
      return (v :: vs, as, ts)
    match isFirst, ts with
    | _, .flowSequenceEnd :: ts => some ([], as, ts)
    | false, .flowEntry :: .flowSequenceEnd :: ts => some ([], as, ts)
    | false, .flowEntry :: ts => item ts
    | false, _ => none
    | true, ts => item ts

/-- The entries of a map in braces, up to its end. A key may be without a value. -/
def flowEntries? : (fuel : Nat) → (isFirst : Bool) → Entries → Anchors → List Token →
    Option (Part Entries)
  | 0, _, _, _, _ => none
  | fuel + 1, isFirst, es, as, ts =>
    let entry (ts : List Token) : Option (Part Entries) := do
      let (k, v, as, ts) ← match ts with
        | .key :: ts => flowPair? fuel [.flowMappingEnd] as ts
        | .value :: _ => flowPair? fuel [.flowMappingEnd] as ts
        | ts => do
          let (k, as, ts) ← node? fuel false false as ts
          pure (k, Node.nothing, as, ts)
      flowEntries? fuel false (← addEntry? k v es) as ts
    match isFirst, ts with
    | _, .flowMappingEnd :: ts => some (es, as, ts)
    | false, .flowEntry :: .flowMappingEnd :: ts => some (es, as, ts)
    | false, .flowEntry :: ts => entry ts
    | false, _ => none
    | true, ts => entry ts

/-- A key and its value in a flow collection that ends with a token. Both may be left out. -/
def flowPair? : (fuel : Nat) → (ends : List Token) → Anchors → List Token →
    Option (Node × Part Node)
  | 0, _, _, _ => none
  | fuel + 1, ends, as, ts => do
    let isEnd (t : Option Token) : Bool := t.any fun t => t = .flowEntry || ends.contains t
    let (k, as, ts) ← if ts.head? = some .value || isEnd ts.head? then some (.nothing, as, ts)
      else node? fuel false false as ts
    match ts with
    | .value :: ts =>
      if isEnd ts.head? then return (k, .nothing, as, ts)
      let (v, as, ts) ← node? fuel false false as ts
      return (k, v, as, ts)
    | ts => return (k, .nothing, as, ts)

end

/-! ## Documents -/

/-- The document of the tokens, which is `none` if there is none. Nothing but the ends of documents
may follow it. -/
def document? (ts : List Token) : Option (Option Node) := do
  let ts := ts.dropWhile (· = .documentEnd)
  let directives := ts.takeWhile (· = .directive)
  let fuel := 4 * ts.length + 4
  let ended (n : Node) (ts : List Token) : Option (Option Node) :=
    if (ts.dropWhile (· = .documentEnd)).isEmpty then some (some n) else none
  match ts.drop directives.length with
  | .documentStart :: ts =>
    let isEmpty := ts.head?.all fun t => [.directive, .documentStart, .documentEnd].contains t
    if isEmpty then ended .nothing ts
    else
      let (n, _, ts) ← node? fuel true false [] ts
      ended n ts
  | ts =>
    if !directives.isEmpty then none
    else if ts.isEmpty then some none
    else
      let (n, _, ts) ← node? fuel true false [] ts
      ended n ts

/-- The entries of a YAML file, whose document must be a map if there is one. -/
def read? (text : String) : Option (List (String × Value)) := do
  match ← document? (← Token.read? text) with
  | none => some []
  | some (.value (.table es)) => some es
  | _ => none

end KeyCustody.Settings.Yaml
