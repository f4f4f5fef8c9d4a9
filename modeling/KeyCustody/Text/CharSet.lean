import KeyCustody.Text.Blank
import KeyCustody.Text.Hex

/-!
# Sets of characters

A set of characters as the code points at which it begins and ends, in ascending order. Sets are
written by the gaps from each such point to the next, in hexadecimal with blanks between them.
-/

namespace KeyCustody.Text

structure CharSet where
  boundaries : Array Nat

/-- How many of the ascending numbers from index `lo` on are at most `n`, counted with those before
`lo`; those from `hi` on are not. -/
def countUpTo (numbers : Array Nat) (n lo hi : Nat) : Nat :=
  if lo < hi then
    let middle := (lo + hi) / 2
    if numbers.getD middle 0 ≤ n then countUpTo numbers n (middle + 1) hi
    else countUpTo numbers n lo middle
  else lo
termination_by hi - lo

theorem countUpTo_le {numbers : Array Nat} {n lo hi : Nat} (h : lo ≤ hi) :
    countUpTo numbers n lo hi ≤ hi := by
  fun_induction countUpTo numbers n lo hi with
  | case1 lo hi hlt middle hle ih => exact ih (by omega)
  | case2 lo hi hlt middle hgt ih => exact Nat.le_trans (ih (by omega)) (by omega)
  | case3 lo hi hge => exact h

namespace CharSet

/-- The set with these gaps, in rows. -/
def ofGaps (rows : List String) : CharSet :=
  let gaps := rows.flatMap fun row => (splitWhere (· = ' ') row.toList).filterMap hexNumber?
  ⟨gaps.foldl (fun points gap => points.push (points.back?.getD 0 + gap)) #[]⟩

/-- Whether a character is in the set: it has begun more often than it has ended. -/
def contains (s : CharSet) (c : Char) : Bool :=
  countUpTo s.boundaries c.toNat 0 s.boundaries.size % 2 = 1

end CharSet

end KeyCustody.Text
