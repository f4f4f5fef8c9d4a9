import KeyCustody.Settings.Toml.Scalar

/-!
# TOML documents

A document is a row of statements: headers of tables, and values under keys. They are read first and
then put together, where no table and no value may be defined twice.
-/

namespace KeyCustody.Settings.Toml

/-! ## Blanks -/

def skipBlanks (cs : List Char) : List Char :=
  cs.dropWhile fun c => c = ' ' || c = '\t'

def skipComment? (cs : List Char) : Option (List Char) :=
  match cs with
  | '#' :: rest =>
    let text := rest.takeWhile isPlain
    match rest.drop text.length with
    | [] => some []
    | rest => (lineBreak? rest).map fun _ => rest
  | cs => some cs

/-- Blanks, comments and line breaks. -/
def skipLines? : Nat → List Char → Option (List Char)
  | 0, _ => none
  | fuel + 1, cs => do
    let rest ← skipComment? (skipBlanks cs)
    match lineBreak? rest with
    | some rest => skipLines? fuel rest
    | none => some rest

/-! ## Keys -/

def isBareKeyChar (c : Char) : Bool :=
  c.isAlphanum || c = '_' || c = '-'

/-- One part of a key: a bare word, or a string on one line. -/
def keyPart? (cs : List Char) : Option (String × List Char) :=
  match cs with
  | '"' :: rest => (basic? (rest.length + 1) rest).map fun (s, rest) => (String.ofList s, rest)
  | c :: rest =>
    if c.toNat = 0x27 then (literal? rest).map fun (s, rest) => (String.ofList s, rest)
    else
      let bare := cs.takeWhile isBareKeyChar
      if bare.isEmpty then none else some (String.ofList bare, cs.drop bare.length)
  | [] => none

/-- A key: parts with points between them. -/
def key? : Nat → List Char → Option (List String × List Char)
  | 0, _ => none
  | fuel + 1, cs => do
    let (part, rest) ← keyPart? (skipBlanks cs)
    match skipBlanks rest with
    | '.' :: rest => (key? fuel rest).map fun (parts, rest) => (part :: parts, rest)
    | rest => some ([part], rest)

/-! ## Tables under construction -/

/-- How a table came to be, which decides what may still be added to it. -/
inductive Origin where
  /-- On the way to a table with a header. -/
  | passed
  /-- By its own header. -/
  | header
  /-- By a key with points. -/
  | dotted
  deriving DecidableEq

inductive Node where
  | value (v : Value)
  | table (origin : Origin) (entries : List (String × Node))
  /-- Tables under one header in double brackets, the latest first. -/
  | tables (latest : List (String × Node)) (before : List Node)

abbrev Nodes := List (String × Node)

def putNode (name : String) (n : Node) : Nodes → Nodes
  | [] => [(name, n)]
  | e :: es => if e.1 = name then (name, n) :: es else e :: putNode name n es

/-- Puts a value under a key with points; every table on the way must be one of such a key, or have
no header of its own. -/
def define : List String → Value → Nodes → Option Nodes
  | [], _, _ => none
  | [name], v, es => if (es.lookup name).isSome then none else some (es ++ [(name, .value v)])
  | name :: path, v, es =>
    match es.lookup name with
    | none => (define path v []).map fun inner => es ++ [(name, .table .dotted inner)]
    | some (.table .header _) => none
    | some (.table origin inner) =>
      (define path v inner).map fun inner => putNode name (.table origin inner) es
    | some _ => none

/-- Changes the table that a path leads to; what is missing on the way is made. -/
def within (change : Nodes → Option Nodes) : List String → Nodes → Option Nodes
  | [], es => change es
  | name :: path, es =>
    match es.lookup name with
    | none => (within change path []).map fun inner => es ++ [(name, .table .passed inner)]
    | some (.table origin inner) =>
      (within change path inner).map fun inner => putNode name (.table origin inner) es
    | some (.tables latest before) =>
      (within change path latest).map fun latest => putNode name (.tables latest before) es
    | some (.value _) => none

/-- Opens a table by its header. -/
def openTable (name : String) (es : Nodes) : Option Nodes :=
  match es.lookup name with
  | none => some (es ++ [(name, .table .header [])])
  | some (.table .passed inner) => some (putNode name (.table .header inner) es)
  | some _ => none

/-- Opens the next of several tables under one header. -/
def openNext (name : String) (es : Nodes) : Option Nodes :=
  match es.lookup name with
  | none => some (es ++ [(name, .tables [] [])])
  | some (.tables latest before) =>
    some (putNode name (.tables [] (.table .header latest :: before)) es)
  | some _ => none

mutual

def Node.toValue : Node → Value
  | .value v => v
  | .table _ es => .table (entriesValue es)
  | .tables latest before => .list (itemsValue before [.table (entriesValue latest)])

def entriesValue : Nodes → List (String × Value)
  | [] => []
  | (name, n) :: es => (name, n.toValue) :: entriesValue es

def itemsValue : List Node → List Value → List Value
  | [], vs => vs
  | n :: ns, vs => itemsValue ns (n.toValue :: vs)

end

/-! ## Values -/

/-- How deep arrays and inline tables may be nested, and how many parts a key may have. -/
def maxDepth : Nat := 80

/-- A key that is not too long. -/
def path? (cs : List Char) : Option (List String × List Char) :=
  (key? (cs.length + 1) cs).filter fun (parts, _) => parts.length ≤ maxDepth

mutual

/-- A value in which arrays and tables are nested no deeper than `depth`. -/
def value? : (fuel depth : Nat) → List Char → Option (Value × List Char)
  | 0, _, _ => none
  | fuel + 1, depth, cs =>
    match cs, depth with
    | '[' :: _, 0 | '{' :: _, 0 => none
    | '[' :: rest, depth + 1 =>
      (items? fuel depth rest).map fun (vs, rest) => (.list vs, rest)
    | '{' :: rest, depth + 1 =>
      (inline? fuel depth rest []).map fun (es, rest) => (.table (entriesValue es), rest)
    | c :: _, _ =>
      if c = '"' || c.toNat = 0x27 then (string? cs).map fun (s, rest) => (.text s, rest)
      else
        let (letters, rest) := word cs
        (wordValue? letters).map fun v => (v, rest)
    | [], _ => none

/-- Items up to the closing bracket; a comma may stand after the last. -/
def items? : (fuel depth : Nat) → List Char → Option (List Value × List Char)
  | 0, _, _ => none
  | fuel + 1, depth, cs => do
    match ← skipLines? (cs.length + 1) cs with
    | ']' :: rest => some ([], rest)
    | rest =>
      let (v, rest) ← value? fuel depth rest
      match ← skipLines? (rest.length + 1) rest with
      | ']' :: rest => some ([v], rest)
      | ',' :: rest => (items? fuel depth rest).map fun (vs, rest) => (v :: vs, rest)
      | _ => none

/-- Entries up to the closing brace; a comma may stand after the last. -/
def inline? : (fuel depth : Nat) → List Char → Nodes → Option (Nodes × List Char)
  | 0, _, _, _ => none
  | fuel + 1, depth, cs, es => do
    match ← skipLines? (cs.length + 1) cs with
    | '}' :: rest => some (es, rest)
    | rest =>
      let (path, rest) ← path? rest
      match rest with
      | '=' :: rest =>
        let (v, rest) ← value? fuel depth (skipBlanks rest)
        let es ← define path v es
        match ← skipLines? (rest.length + 1) rest with
        | '}' :: rest => some (es, rest)
        | ',' :: rest => inline? fuel depth rest es
        | _ => none
      | _ => none

end

/-! ## Documents -/

/-- The end of a statement: blanks, a comment, and the end of the line. -/
def lineEnd? (cs : List Char) : Option (List Char) := do
  match ← skipComment? (skipBlanks cs) with
  | [] => some []
  | rest => lineBreak? rest

/-- A key between brackets that are closed by `close`. -/
def header? (close : List Char) (cs : List Char) : Option (List String × List Char) := do
  let (path, rest) ← path? cs
  some (path, ← lineEnd? (← Text.after? close rest))

/-- The statements of a document, put into the table that the last header opened. -/
def statements? : Nat → List Char → (current : List String) → Nodes → Option Nodes
  | 0, _, _, _ => none
  | fuel + 1, cs, current, es => do
    match ← skipLines? (cs.length + 1) cs with
    | [] => some es
    | '[' :: '[' :: rest =>
      let (path, rest) ← header? [']', ']'] rest
      let es ← within (openNext (path.getLastD "")) path.dropLast es
      statements? fuel rest path es
    | '[' :: rest =>
      let (path, rest) ← header? [']'] rest
      let es ← within (openTable (path.getLastD "")) path.dropLast es
      statements? fuel rest path es
    | rest =>
      let (path, rest) ← path? rest
      match rest with
      | '=' :: rest =>
        let (v, rest) ← value? (rest.length + 1) maxDepth (skipBlanks rest)
        let rest ← lineEnd? rest
        let es ← within (define path v) current es
        statements? fuel rest current es
      | _ => none

def read? (text : String) : Option (List (String × Value)) :=
  let cs := text.toList
  (statements? (cs.length + 1) cs [] []).map entriesValue

end KeyCustody.Settings.Toml
