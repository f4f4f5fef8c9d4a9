/-!
# Hexadecimal numbers

Digits from `0` to `9` and from `a` to `f`, in either case.
-/

namespace KeyCustody.Text

def hexDigit? (c : Char) : Option Nat :=
  let n := c.toNat
  if 48 ≤ n ∧ n ≤ 57 then some (n - 48)
  else if 97 ≤ n ∧ n ≤ 102 then some (n - 87)
  else if 65 ≤ n ∧ n ≤ 70 then some (n - 55)
  else none

theorem hexDigit?_lt {c : Char} {n : Nat} (h : hexDigit? c = some n) : n < 16 := by
  simp only [hexDigit?] at h
  split at h
  · simp only [Option.some.injEq] at h
    omega
  · split at h
    · simp only [Option.some.injEq] at h
      omega
    · split at h
      · simp only [Option.some.injEq] at h
        omega
      · simp at h

def isHexDigit (c : Char) : Bool := (hexDigit? c).isSome

/-- The value of a row of hexadecimal digits; of none it is zero. -/
def hexNumber? (cs : List Char) : Option Nat :=
  cs.foldlM (fun n c => return n * 16 + (← hexDigit? c)) 0

end KeyCustody.Text
