/-!
# Punycode

A label of a domain name in ASCII: its ASCII characters, then where the others are to be inserted,
in the order of their code points. Numbers are written in base 36 with a threshold for each digit
that adapts to the distances seen so far. `decode?` reads what `encode` writes.
-/

namespace KeyCustody.Http.Punycode

def digit (n : Nat) : Char :=
  if n < 26 then Char.ofNat (97 + n) else Char.ofNat (22 + n)

/-- The threshold of a digit: it is the last one if it is smaller. -/
def threshold (position bias : Nat) : Nat :=
  if position ≤ bias then 1 else if bias + 26 ≤ position then 26 else position - bias

theorem one_le_threshold (position bias : Nat) : 1 ≤ threshold position bias := by
  unfold threshold
  split
  · omega
  · split <;> omega

theorem threshold_le (position bias : Nat) : threshold position bias ≤ 26 := by
  unfold threshold
  split
  · omega
  · split <;> omega

/-- Scales a distance down, and counts the digits that this saves. -/
def scale (delta saved : Nat) : Nat × Nat :=
  if 455 < delta then scale (delta / 35) (saved + 36) else (delta, saved)
termination_by delta

/-- The bias after a distance has been written. -/
def adapt (delta written : Nat) (isFirst : Bool) : Nat :=
  let delta := if isFirst then delta / 700 else delta / 2
  let (delta, saved) := scale (delta + delta / written) 0
  saved + 36 * delta / (delta + 38)

def number (bias position n : Nat) : List Char :=
  let t := threshold position bias
  if n < t then [digit n]
  else digit (t + (n - t) % (36 - t)) :: number bias (position + 36) ((n - t) / (36 - t))
termination_by n
decreasing_by
  have := one_le_threshold position bias
  have := threshold_le position bias
  exact Nat.lt_of_le_of_lt (Nat.div_le_self _ _) (by omega)

structure Progress where
  digits : List Char
  delta : Nat
  bias : Nat
  /-- How many characters are in place. -/
  written : Nat

/-- Walks over a label for the sake of one code point. -/
def walk (basic point : Nat) (p : Progress) (c : Char) : Progress :=
  if c.toNat < point then { p with delta := p.delta + 1 }
  else if c.toNat = point then
    { digits := p.digits ++ number p.bias 36 p.delta
      delta := 0
      bias := adapt p.delta (p.written + 1) (p.written = basic)
      written := p.written + 1 }
  else p

/-- Inserts the characters of each code point in turn; `next` is the least one not yet treated. -/
def insertAll (label : List Char) (basic : Nat) : List Nat → Nat → Progress → Progress
  | [], _, p => p
  | point :: points, next, p =>
    let p := { p with delta := p.delta + (point - next) * (p.written + 1) }
    let p := label.foldl (walk basic point) p
    insertAll label basic points (point + 1) { p with delta := p.delta + 1 }

def encode (label : List Char) : List Char :=
  let ascii := label.filter (·.toNat < 128)
  let points := (((label.map Char.toNat).filter (128 ≤ ·)).mergeSort (· ≤ ·)).eraseDups
  let start : Progress := ⟨[], 0, 72, ascii.length⟩
  let digits := (insertAll label ascii.length points 128 start).digits
  ascii ++ (if ascii.isEmpty then [] else ['-']) ++ digits

/-! ## Reading -/

def digitValue? (c : Char) : Option Nat :=
  let n := c.toNat
  if 97 ≤ n ∧ n ≤ 122 then some (n - 97)
  else if 48 ≤ n ∧ n ≤ 57 then some (n - 22)
  else none

theorem digitValue?_digit {n : Nat} (h : n < 36) : digitValue? (digit n) = some n := by
  have all : ∀ m ∈ List.range 36, digitValue? (digit m) = some m := by decide
  exact all n (List.mem_range.2 h)

def maxNumber : Nat := 4294967295

/-- A number added to `sum`, its next digit counting `weight`, and the characters after it. -/
def distance? (bias : Nat) :
    (position weight sum : Nat) → List Char → Option (Nat × List Char)
  | _, _, _, [] => none
  | position, weight, sum, c :: cs => do
    let d ← digitValue? c
    let sum := sum + d * weight
    let t := threshold position bias
    if maxNumber < sum then none
    else if d < t then some (sum, cs)
    else if maxNumber < weight * (36 - t) then none
    else distance? bias (position + 36) (weight * (36 - t)) sum cs

/-- Inserts the characters that the digits tell; `point` and `index` are where the last one went,
and the index beyond it. Every character takes a digit, so there are enough steps. -/
def insertDigits : (steps point index bias : Nat) → List Char → List Char → Option (List Char)
  | _, _, _, _, text, [] => some text
  | 0, _, _, _, _, _ :: _ => none
  | steps + 1, point, index, bias, text, cs => do
    let (sum, rest) ← distance? bias 36 1 index cs
    let size := text.length + 1
    let point := point + sum / size
    let at_ := sum % size
    if !point.isValidChar then none
    else
      insertDigits steps point (at_ + 1) (adapt (sum - index) size (index = 0))
        (text.take at_ ++ Char.ofNat point :: text.drop at_) rest

def decode? (cs : List Char) : Option (List Char) :=
  let digits := (cs.reverse.takeWhile (· ≠ '-')).reverse
  let basic := cs.take (cs.length - digits.length)
  match basic with
  | [] => insertDigits digits.length 128 0 72 [] digits
  | [_] => none
  | basic => insertDigits digits.length 128 0 72 basic.dropLast digits

end KeyCustody.Http.Punycode
