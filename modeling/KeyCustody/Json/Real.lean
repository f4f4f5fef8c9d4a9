import KeyCustody.Json.Value
import KeyCustody.Number.Double

/-!
# Numbers of JSON as binary numbers

A number is rounded in two steps. As many of its digits as fit into 64 bits make a whole number, and
further ones only count; that number is rounded, then multiplied or divided by a power of ten, and
the result is rounded again. It can miss the nearest binary number by little. A number that is too
large is none.
-/

namespace KeyCustody.Json.Number

def maxWhole : Nat := 18446744073709551615

def minWhole : Int := -9223372036854775808

/-- Reads digits as long as their value fits into 64 bits, and leaves the others. -/
def gather (n : Nat) : List Char → Nat × List Char
  | [] => (n, [])
  | c :: cs =>
    let next := n * 10 + (c.toNat - 48)
    if maxWhole < next then (n, c :: cs) else gather next cs

theorem gather_le {n : Nat} {cs : List Char} (h : n ≤ maxWhole) : (gather n cs).1 ≤ maxWhole := by
  induction cs generalizing n with
  | nil => exact h
  | cons c cs ih =>
    simp only [gather]
    split
    · exact h
    · exact ih (Nat.le_of_not_lt ‹_›)

/-- The largest power of ten that is one step away. -/
def maxPower : Int := 308

/-- A number times a power of ten, unless it is too large. -/
def scale (x : Double) (power : Int) : Option Double :=
  if x.isZero then some x
  else if maxPower < power then none
  else if 0 ≤ power then
    match x.mul (.ofDecimal false 1 power) with
    | .infinite _ => none
    | x => some x
  else if -maxPower ≤ power then some (x.div (.ofDecimal false 1 (-power)))
  else scale (x.div (.ofDecimal false 1 maxPower)) (power + maxPower)
termination_by (-power).toNat
decreasing_by
  simp only [maxPower] at *
  omega

/-- The binary number that the parts of a decimal make: its sign, the digits before and after the
point, and its power of ten. -/
def toDouble? (negative : Bool) (whole fraction : List Char) (power : Int) : Option Double := do
  let (n, left) := gather 0 whole
  let (m, unread) := gather n fraction
  let power := power + left.length - (fraction.length - unread.length : Nat)
  return (← scale (.ofDecimal false m 0) power).withSign negative

/-- The value of a number that stands in a text as such a row of characters. -/
def ofDigits? (digits : List Char) : Option Double :=
  let (negative, cs) := match digits with
    | '-' :: cs => (true, cs)
    | cs => (false, cs)
  let whole := cs.takeWhile Char.isDigit
  let (fraction, rest) := match cs.drop whole.length with
    | '.' :: rest => (rest.takeWhile Char.isDigit, rest.dropWhile Char.isDigit)
    | rest => ([], rest)
  toDouble? negative whole fraction ((Double.exponent? rest.tail).getD 0)

end KeyCustody.Json.Number
