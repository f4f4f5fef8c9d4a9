/-!
# JSON values

Values as a text writes them: members keep their order and their repetitions, and numbers that are
no integers keep their digits.
-/

namespace KeyCustody

inductive Json.Number where
  | whole (n : Int)
  /-- A fraction, an exponent, or minus zero, as written. -/
  | decimal (digits : String)
  deriving DecidableEq, Repr

inductive Json where
  | null
  | bool (b : Bool)
  | number (n : Json.Number)
  | string (s : String)
  /-- A string, or an object with a name, whose escapes name no character: it can only be skipped.
  -/
  | unreadable
  | array (items : List Json)
  | object (members : List (String × Json))
  deriving Repr

namespace Json

def nat (n : Nat) : Json := .number (.whole n)

def ofString? (s : Option String) : Json :=
  s.elim .null .string

def ofNat? (n : Option Nat) : Json :=
  n.elim .null .nat

/-- The last member of this name. -/
def member? (name : String) : Json → Option Json
  | .object members => (members.findRev? (·.1 == name)).map (·.2)
  | _ => none

def isNull : Json → Bool
  | .null => true
  | _ => false

/-- A whole number from zero to `bound`. -/
def asNat? (bound : Nat) : Json → Option Nat
  | .number (.whole n) => if 0 ≤ n ∧ n ≤ bound then some n.toNat else none
  | _ => none

def asBool? : Json → Option Bool
  | .bool b => some b
  | _ => none

def asString? : Json → Option String
  | .string s => some s
  | _ => none

def asArray? : Json → Option (List Json)
  | .array items => some items
  | _ => none

mutual

/-- The value with a function applied to each of its strings. Names of members stay. -/
def mapStrings (f : String → String) : Json → Json
  | .string s => .string (f s)
  | .array items => .array (mapItems f items)
  | .object members => .object (mapMembers f members)
  | other => other

def mapItems (f : String → String) : List Json → List Json
  | [] => []
  | item :: rest => item.mapStrings f :: mapItems f rest

def mapMembers (f : String → String) : List (String × Json) → List (String × Json)
  | [] => []
  | (name, value) :: rest => (name, value.mapStrings f) :: mapMembers f rest

end

end Json

end KeyCustody
