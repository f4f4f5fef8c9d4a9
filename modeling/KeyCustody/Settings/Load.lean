import KeyCustody.Json.Reader
import KeyCustody.Json.Real
import KeyCustody.Settings.Ini
import KeyCustody.Settings.Json5
import KeyCustody.Settings.Ron
import KeyCustody.Settings.Toml.Document
import KeyCustody.Settings.VariableFile
import KeyCustody.Settings.Yaml.Document

/-!
# Loading settings

Settings come in layers: the defaults, a file, and variables, of which those in the environment win
over those in a file of variables. A higher layer replaces what it mentions, setting by setting.
-/

namespace KeyCustody.Settings

open Value

/-! ## JSON files -/

mutual

/-- The value of a JSON text, nested no deeper than `depth`. -/
def Value.ofJson? : (depth : Nat) → Json → Option Value
  | _, .null => some .nothing
  | _, .bool b => some (.flag b)
  | _, .number (.whole n) =>
    if Json.Number.minWhole ≤ n ∧ n ≤ Json.Number.maxWhole then some (.whole n)
    else (Json.Number.ofDigits? (toString n).toList).map .real
  | _, .number (.decimal digits) => (Json.Number.ofDigits? digits.toList).map .real
  | _, .string s => some (.text s)
  | _, .unreadable => none
  | 0, .array _ => none
  | depth + 1, .array items => (Value.ofItems? depth items).map .list
  | 0, .object _ => none
  | depth + 1, .object members => (Value.ofMembers? depth members []).map .table

def Value.ofItems? : (depth : Nat) → List Json → Option (List Value)
  | _, [] => some []
  | depth, j :: js => do
    let v ← Value.ofJson? depth j
    let vs ← Value.ofItems? depth js
    some (v :: vs)

/-- The entries of an object; of members of one name the last counts. -/
def Value.ofMembers? :
    (depth : Nat) → List (String × Json) → List (String × Value) → Option (List (String × Value))
  | _, [], es => some es
  | depth, (name, j) :: ms, es => do
    let v ← Value.ofJson? depth j
    Value.ofMembers? depth ms (put name v es)

end

def maxDepth : Nat := 127

/-- The entries of a JSON file, which must be one object. -/
def readJson? (text : String) : Option (List (String × Value)) := do
  match ← Value.ofJson? maxDepth (← Json.read? text) with
  | .table es => some es
  | _ => none

/-! ## Files -/

/-- What follows the last point of a file's name, unless nothing stands before it. -/
def extension? (path : String) : Option String :=
  let name := (path.toList.reverse.takeWhile (· ≠ '/'))
  let ending := name.takeWhile (· ≠ '.')
  match name.drop ending.length with
  | '.' :: _ :: _ => some (String.ofList ending.reverse)
  | _ => none

def reader? (extension : String) : Option (String → Option (List (String × Value))) :=
  match extension with
  | "toml" => some Toml.read?
  | "json" => some readJson?
  | "yaml" | "yml" => some Yaml.read?
  | "ini" => some Ini.read?
  | "ron" => some Ron.read?
  | "json5" => some Json5.read?
  | _ => none

/-- A text without a byte order mark. -/
def withoutMark (text : String) : String :=
  match text.toList with
  | c :: cs => if c.toNat = 0xFEFF then String.ofList cs else text
  | [] => text

def readFile? (path text : String) : Option (List (String × Value)) := do
  let read ← reader? (← extension? path)
  read (withoutMark text)

/-! ## Layers -/

/-- The settings of the layers: a file's entries over the defaults, and variables over both. -/
def ofLayers? (file : List (String × Value)) (vars : Variables) : Option Settings :=
  ofValue? (putAll vars.settings (putAll file defaults.toValue))

/-- Where settings are loaded from. -/
structure Sources where
  /-- The path of a file that has to be there, and its text if it is. -/
  file : Option (String × Option String)
  environment : Variables
  /-- The text of a file of variables, if there is one. -/
  variableFile : Option String

/-- The error for settings that cannot be read, whatever is wrong with them. -/
def loadingFailed : Error := .config "Configuration loading failed"

def load (s : Sources) : Except Error Settings := do
  let vars := s.variableFile.elim s.environment fun text => VariableFile.load text s.environment
  let file? := match s.file with
    | none => some []
    | some (path, content) => content.bind (readFile? path)
  match file?.bind fun file => ofLayers? file vars with
  | none => throw loadingFailed
  | some settings =>
    settings.validate
    return settings

end KeyCustody.Settings
