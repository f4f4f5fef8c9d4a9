import KeyCustody.Text.Shown

/-!
# Quoted text

A text between double quotes, written so that every character of it can be seen: quotes and
backslashes are escaped, and characters that do not show appear by their code point.
-/

namespace KeyCustody.Text.Quoted

def hexDigits (n : Nat) : List Char :=
  Nat.toDigits 16 n

def escape (c : Char) : List Char :=
  if c = '"' then ['\\', '"']
  else if c = '\\' then ['\\', '\\']
  else if c = '\n' then ['\\', 'n']
  else if c = '\r' then ['\\', 'r']
  else if c = '\t' then ['\\', 't']
  else if c.toNat = 0 then ['\\', '0']
  else if showsItself c then [c]
  else ['\\', 'u', '{'] ++ hexDigits c.toNat ++ ['}']

def encode (s : String) : String :=
  String.ofList ('"' :: s.toList.flatMap escape ++ ['"'])

end KeyCustody.Text.Quoted
