import KeyCustody.Json.Value

/-!
# Writing JSON

The compact text of a value, without blanks. Only quotes, backslashes and controls are escaped.
-/

namespace KeyCustody.Json

def hexDigit (n : Nat) : Char :=
  if n < 10 then Char.ofNat (48 + n) else Char.ofNat (87 + n)

def escape (c : Char) : List Char :=
  if c = '"' then ['\\', '"']
  else if c = '\\' then ['\\', '\\']
  else if c = Char.ofNat 8 then ['\\', 'b']
  else if c = Char.ofNat 12 then ['\\', 'f']
  else if c = '\n' then ['\\', 'n']
  else if c = '\r' then ['\\', 'r']
  else if c = '\t' then ['\\', 't']
  else if c.toNat < 0x20 then
    ['\\', 'u', '0', '0', hexDigit (c.toNat / 16), hexDigit (c.toNat % 16)]
  else [c]

def writeString (s : String) : List Char :=
  '"' :: s.toList.flatMap escape ++ ['"']

def writeNumber : Number → List Char
  | .whole n => (toString n).toList
  | .decimal digits => digits.toList

mutual

def writeChars : Json → List Char
  | .null => ['n', 'u', 'l', 'l']
  | .bool true => ['t', 'r', 'u', 'e']
  | .bool false => ['f', 'a', 'l', 's', 'e']
  | .number n => writeNumber n
  | .string s => writeString s
  | .unreadable => ['"', '\\', 'u', 'd', '8', '0', '0', '"']
  | .array items => '[' :: writeItems items
  | .object members => '{' :: writeMembers members

def writeItems : List Json → List Char
  | [] => [']']
  | [item] => writeChars item ++ [']']
  | item :: items => writeChars item ++ ',' :: writeItems items

def writeMembers : List (String × Json) → List Char
  | [] => ['}']
  | [(name, value)] => writeString name ++ ':' :: writeChars value ++ ['}']
  | (name, value) :: members =>
    writeString name ++ ':' :: writeChars value ++ ',' :: writeMembers members

end

def write (j : Json) : String :=
  String.ofList j.writeChars

end KeyCustody.Json
