import KeyCustody.Settings.Value

/-!
# Variables

Settings in the environment, such as `KEYWARD__KEYSTORE__URL`: two underscores separate the parts of
a path, and case does not matter. A value is a flag, a number or a text, whichever it can be first.
-/

namespace KeyCustody.Settings

open Text

/-- Names and values of variables, each name once. -/
abbrev Variables := List (String × String)

namespace Variables

def namespaceMark : String := "keyward__"

/-- The text with every occurrence of a pair of underscores replaced by a point. -/
def dotted : List Char → List Char
  | '_' :: '_' :: cs => '.' :: dotted cs
  | c :: cs => c :: dotted cs
  | [] => []

def settingName? (name : String) : Option String :=
  (after? namespaceMark.toList (lower name).toList).map fun rest => String.ofList (dotted rest)

def value (text : String) : Value :=
  if lower text = "true" then .flag true
  else if lower text = "false" then .flag false
  else
    match integer? (-9223372036854775808) 9223372036854775807 text with
    | some n => .whole n
    | none =>
      match Double.read? text with
      | some x => .real x
      | none => .text text

def settings (vars : Variables) : List (String × Value) :=
  vars.filterMap fun (name, text) => (settingName? name).map fun s => (s, value text)

/-- Adds variables, of which those that are set already are left alone. -/
def addMissing (more vars : Variables) : Variables :=
  more.foldl (fun vars e => if (vars.lookup e.1).isSome then vars else vars ++ [e]) vars

end Variables

end KeyCustody.Settings
