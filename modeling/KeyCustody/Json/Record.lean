import KeyCustody.Json.Value

/-!
# Records in JSON

A record of known fields, written as an object or, field by field, as an array. Members of other
names are skipped; a known name may stand only once. In an array the last fields may be missing, as
far as a record can do without them.
-/

namespace KeyCustody.Json

/-- The known fields that a value writes, in no particular order; an array gives at least the first
`least` of them. -/
def record? (names : List String) (least : Nat) : Json → Option (List (String × Json))
  | .object members =>
    let known := members.filter fun m => names.contains m.1
    if (known.map (·.1)).Nodup then some known else none
  | .array items =>
    if least ≤ items.length ∧ items.length ≤ names.length then some (names.zip items) else none
  | _ => none

/-- The value of a field, `absent` if the record does not write it. -/
def field? (fields : List (String × Json)) (name : String) (read : Json → Option α)
    (absent : Option α) : Option α :=
  match fields.lookup name with
  | none => absent
  | some value => read value

/-- Nothing for `null`, and what `read` makes of any other value. -/
def nullable? (read : Json → Option α) : Json → Option (Option α)
  | .null => some none
  | value => (read value).map some

/-- A name out of a closed list: a string, or an object whose only member has that name and no
value. -/
def variant? (named : String → Option α) : Json → Option α
  | .string name => named name
  | .object [(name, .null)] => named name
  | _ => none

/-- An object with the members of another in place of its own; what is no object adds nothing. -/
def overlay : (base top : Json) → Json
  | .object members, .object more =>
    .object (members.filter (fun m => (more.lookup m.1).isNone) ++ more)
  | base, _ => base

def strings? (value : Json) : Option (List String) := do
  (← value.asArray?).mapM asString?

end KeyCustody.Json
