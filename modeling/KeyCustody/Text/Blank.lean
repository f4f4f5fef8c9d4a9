/-!
# Blank characters

The characters of the `White_Space` property, and cutting them off the ends of a text.
-/

namespace KeyCustody.Text

/-- Whether a character has the `White_Space` property. -/
def isBlank (c : Char) : Bool :=
  let n := c.toNat
  (0x09 ≤ n && n ≤ 0x0D) || n = 0x20 || n = 0x85 || n = 0xA0 || n = 0x1680 ||
    (0x2000 ≤ n && n ≤ 0x200A) || n = 0x2028 || n = 0x2029 || n = 0x202F || n = 0x205F || n = 0x3000

theorem isBlank_of_isWhitespace {c : Char} (h : c.isWhitespace = true) : isBlank c = true := by
  simp only [Char.isWhitespace, Bool.or_eq_true, decide_eq_true_eq] at h
  rcases h with ((h | h) | h) | h <;> subst h <;> decide

/-- Drops the elements at both ends that satisfy `p`. -/
def stripWhere (p : Char → Bool) (cs : List Char) : List Char :=
  ((cs.dropWhile p).reverse.dropWhile p).reverse

def trim (s : String) : String :=
  String.ofList (stripWhere isBlank s.toList)

def isBlankText (s : String) : Bool :=
  s.toList.all isBlank

/-- The text with its ASCII letters in lower case, and the Kelvin sign as `k`: the only other
character whose lower case is an ASCII letter. -/
def lower (s : String) : String :=
  String.ofList (s.toList.map fun c => if c.toNat = 0x212A then 'k' else c.toLower)

/-- Whether `cs` starts with `p`; if so, what follows it. -/
def after? {α : Type} [DecidableEq α] : (p cs : List α) → Option (List α)
  | [], cs => some cs
  | _ :: _, [] => none
  | p :: ps, c :: cs => if p = c then after? ps cs else none

theorem after?_eq_some_iff {α : Type} [DecidableEq α] {p cs rest : List α} :
    after? p cs = some rest ↔ cs = p ++ rest := by
  induction p generalizing cs with
  | nil => simp [after?, eq_comm]
  | cons x xs ih =>
    cases cs with
    | nil => simp [after?]
    | cons c cs =>
      by_cases h : x = c
      · simp [after?, h, ih]
      · simp [after?, h, Ne.symm h]

/-- The parts of `cs` between the places where `sep` holds. There is always at least one. -/
def splitWhere {α : Type} (sep : α → Bool) : List α → List (List α)
  | [] => [[]]
  | c :: cs =>
    match sep c, splitWhere sep cs with
    | true, parts => [] :: parts
    | false, part :: parts => (c :: part) :: parts
    | false, [] => [[c]]

/-- Removes every occurrence of a text, from left to right. -/
def removeAll (what : List Char) (cs : List Char) : List Char :=
  match what, cs with
  | [], cs => cs
  | _ :: _, [] => []
  | w :: ws, c :: cs =>
    match _found : after? (w :: ws) (c :: cs) with
    | some rest => removeAll (w :: ws) rest
    | none => c :: removeAll (w :: ws) cs
termination_by cs.length
decreasing_by
  · have := congrArg List.length (after?_eq_some_iff.1 _found)
    simp at this ⊢
    omega
  · simp

end KeyCustody.Text
