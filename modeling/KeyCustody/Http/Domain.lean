import KeyCustody.Http.Domain.Direction
import KeyCustody.Http.Domain.Folding
import KeyCustody.Http.Domain.Joining
import KeyCustody.Http.Punycode
import KeyCustody.Text.Composed

/-!
# Domain names

Domain names of any script in their ASCII form. A name is folded and composed first. Its labels,
those that come in ASCII form included, must be in that form already, must not begin with a mark,
and must use joiners and directions of writing so that they are shown as they are.
-/

namespace KeyCustody.Http.Domain

open Text

/-- A label, and how it is written in ASCII. -/
structure Label where
  text : List Char
  ascii : List Char

/-- What the ASCII form of other labels begins with. -/
def asciiMark : List Char := ['x', 'n', '-', '-']

/-- How many characters a label in its own script and in ASCII form may have. -/
def maxLength : Nat := 1000
def maxAsciiLength : Nat := 2000

def isAscii (c : Char) : Bool := c.toNat < 128

/-- Whether folding and composing leave a text as it is. -/
def isFolded (cs : List Char) : Bool :=
  (cs.all fun c => fold? c = some [c]) && Composed.compose cs = cs

/-- The label that a folded text writes. -/
def Label.read? (cs : List Char) : Option Label :=
  match after? asciiMark cs with
  | some encoded =>
    if encoded.length ≤ maxAsciiLength && encoded.all isAscii then
      (Punycode.decode? encoded).bind fun text =>
        if !text.all isAscii && isFolded text then some ⟨text, cs⟩ else none
    else none
  | none =>
    if cs.all isAscii then some ⟨cs, cs⟩
    else if cs.length ≤ maxLength then some ⟨cs, asciiMark ++ Punycode.encode cs⟩
    else none

/-- Signs and controls of ASCII that no domain name may contain. -/
def isForbidden (c : Char) : Bool :=
  c.toNat ≤ 0x20 || c.toNat = 0x7F ||
    ['%', '#', '/', ':', '<', '>', '?', '@', '[', '\\', ']', '^', '|'].contains c

def Label.isValid (l : Label) : Bool :=
  !l.text.any isForbidden && !l.text.head?.any isMark && joinersFit [] l.text

def toAscii? (cs : List Char) : Option (List Char) := do
  let folded ← cs.mapM fold?
  let labels ← (splitWhere (· = '.') (Composed.compose folded.flatten)).mapM Label.read?
  let texts := labels.map Label.text
  if labels.all Label.isValid && (!texts.any hasRightToLeft || texts.all keepsDirection) then
    some (List.intercalate ['.'] (labels.map Label.ascii))
  else none

end KeyCustody.Http.Domain
