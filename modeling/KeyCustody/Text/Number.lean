/-!
# Whole numbers as text

Digits with an optional sign, read into a range.
-/

namespace KeyCustody.Text

/-- The value of a row of digits; nothing else may stand in it, and there must be one. -/
def digitsValue? (cs : List Char) : Option Nat :=
  if cs.isEmpty || !cs.all Char.isDigit then none
  else some (cs.foldl (fun n c => n * 10 + (c.toNat - 48)) 0)

/-- A number from zero to `bound`, possibly with a plus sign. -/
def natural? (bound : Nat) (s : String) : Option Nat := do
  let n ← digitsValue? (match s.toList with
    | '+' :: cs => cs
    | cs => cs)
  if n ≤ bound then some n else none

/-- A number from `lo` to `hi`, possibly with a sign. -/
def integer? (lo hi : Int) (s : String) : Option Int := do
  let n ← match s.toList with
    | '+' :: cs => (digitsValue? cs).map Int.ofNat
    | '-' :: cs => (digitsValue? cs).map fun n => -(n : Int)
    | cs => (digitsValue? cs).map Int.ofNat
  if lo ≤ n ∧ n ≤ hi then some n else none

end KeyCustody.Text
