/-!
# Binary floating-point numbers

Numbers with 53 binary digits and bounded exponents, as exact values. A decimal is read as the
nearest such number, of two the one with an even significand. A number is written with the fewest
digits that read back as it, never with an exponent.
-/

namespace KeyCustody

inductive Double where
  | nan
  | infinite (negative : Bool)
  /-- The number `significand * 2 ^ exponent`, with a sign. -/
  | finite (negative : Bool) (significand : Nat) (exponent : Int)
  deriving DecidableEq, Repr

namespace Double

/-- The least exponent, which numbers too small for a full significand have. -/
def minExponent : Int := -1074

def maxExponent : Int := 971

/-- The quotient of two numbers, rounded to the nearest whole number, of two to the even one. -/
def roundDiv (num den : Nat) : Nat :=
  let q := num / den
  let twice := 2 * (num % den)
  if twice < den ∨ (twice = den ∧ q % 2 = 0) then q else q + 1

/-- A fraction times a power of two, as a fraction. -/
def shift (num den : Nat) (e : Int) : Nat × Nat :=
  if 0 ≤ e then (num * Nat.pow 2 e.toNat, den) else (num, den * Nat.pow 2 (-e).toNat)

/-- The exponent of the greatest power of two that is at most a positive fraction. -/
def floorLog2 (num den : Nat) : Int :=
  let guess : Int := (num.log2 : Int) - den.log2
  let (n, d) := shift num den (-guess)
  if n < d then guess - 1 else guess

def ofRatio (negative : Bool) (num den : Nat) : Double :=
  if num = 0 then finite negative 0 minExponent
  else
    let e := max minExponent (floorLog2 num den - 52)
    let (n, d) := shift num den (-e)
    let q := roundDiv n d
    let (q, e) := if q = Nat.pow 2 53 then (Nat.pow 2 52, e + 1) else (q, e)
    if maxExponent < e then infinite negative else finite negative q e

/-- The number nearest to `digits * 10 ^ power`. -/
def ofDecimal (negative : Bool) (digits : Nat) (power : Int) : Double :=
  let size : Int := (Nat.toDigits 10 digits).length + power
  if digits = 0 ∨ size < -400 then finite negative 0 minExponent
  else if 400 < size then infinite negative
  else if 0 ≤ power then ofRatio negative (digits * Nat.pow 10 power.toNat) 1
  else ofRatio negative digits (Nat.pow 10 (-power).toNat)

def withSign (negative : Bool) : Double → Double
  | nan => nan
  | infinite _ => infinite negative
  | finite _ s e => finite negative s e

/-! ## Products and quotients -/

/-- The product, rounded; there is none of infinity and zero. -/
def mul : Double → Double → Double
  | nan, _ | _, nan => nan
  | infinite a, infinite b => infinite (a != b)
  | infinite a, finite b s _ | finite a s _, infinite b => if s = 0 then nan else infinite (a != b)
  | finite a s e, finite b t f =>
    let (num, den) := shift (s * t) 1 (e + f)
    ofRatio (a != b) num den

/-- The quotient, rounded; there is none of two infinities or two zeros. -/
def div : Double → Double → Double
  | nan, _ | _, nan => nan
  | infinite _, infinite _ => nan
  | infinite a, finite b _ _ => infinite (a != b)
  | finite a _ _, infinite b => finite (a != b) 0 minExponent
  | finite a s e, finite b t f =>
    if t = 0 then if s = 0 then nan else infinite (a != b)
    else
      let (num, den) := shift s t (e - f)
      ofRatio (a != b) num den

/-! ## Reading -/

def valueOf (digits : List Char) : Nat :=
  digits.foldl (fun n c => n * 10 + (c.toNat - 48)) 0

def exponent? (cs : List Char) : Option Int :=
  let (negative, ds) := match cs with
    | '-' :: ds => (true, ds)
    | '+' :: ds => (false, ds)
    | ds => (false, ds)
  if ds.isEmpty || !ds.all Char.isDigit then none
  else some (if negative then -(valueOf ds : Int) else valueOf ds)

/-- An unsigned decimal: digits before the point or after it, and possibly an exponent. -/
def decimal? (negative : Bool) (cs : List Char) : Option Double := do
  let whole := cs.takeWhile Char.isDigit
  let rest := cs.drop whole.length
  let (fraction, rest) := match rest with
    | '.' :: rest => (rest.takeWhile Char.isDigit, rest.dropWhile Char.isDigit)
    | rest => ([], rest)
  if whole.isEmpty && fraction.isEmpty then none
  let power ← match rest with
    | [] => some 0
    | c :: rest => if c = 'e' || c = 'E' then exponent? rest else none
  some (ofDecimal negative (valueOf (whole ++ fraction)) (power - fraction.length))

/-- A number with an optional sign: a decimal, `inf`, `infinity` or `nan` in any case. -/
def read? (text : String) : Option Double :=
  let (negative, cs) := match text.toList with
    | '-' :: cs => (true, cs)
    | '+' :: cs => (false, cs)
    | cs => (false, cs)
  let name := String.ofList (cs.map Char.toLower)
  if name = "inf" || name = "infinity" then some (infinite negative)
  else if name = "nan" then some nan
  else decimal? negative cs

/-! ## Rounding -/

/-- The nearest whole number within the bounds from zero to `bound`; a half goes up, and no number
at all is zero. -/
def toNat (bound : Nat) : Double → Nat
  | nan => 0
  | infinite negative => if negative then 0 else bound
  | finite true .. => 0
  | finite false s e =>
    let (n, d) := shift s 1 e
    min bound ((2 * n + d) / (2 * d))

def isZero : Double → Bool
  | finite _ s _ => s = 0
  | _ => false

/-! ## Writing -/

/-- A number and the bounds of the decimals that read as it, over a common denominator, and whether
the bounds themselves read as it. -/
structure Interval where
  low : Nat
  value : Nat
  high : Nat
  den : Nat
  closed : Bool

def interval (s : Nat) (e : Int) : Interval :=
  let low := if s = Nat.pow 2 52 ∧ minExponent < e then 4 * s - 1 else 4 * s - 2
  let (_, den) := shift 1 1 (e - 2)
  let scale (n : Nat) : Nat := (shift n 1 (e - 2)).1
  ⟨scale low, scale (4 * s), scale (4 * s + 2), den, s % 2 = 0⟩

/-- Whether `digits * 10 ^ power` reads back. -/
def Interval.holds (i : Interval) (digits : Nat) (power : Int) : Bool :=
  let left := if 0 ≤ power then digits * Nat.pow 10 power.toNat * i.den else digits * i.den
  let scale := if 0 ≤ power then 1 else Nat.pow 10 (-power).toNat
  if i.closed then i.low * scale ≤ left && left ≤ i.high * scale
  else i.low * scale < left && left < i.high * scale

/-- The number of digits before the point, or minus the number of zeros after it. -/
def magnitude (i : Interval) : Int :=
  if i.den ≤ i.value then (Nat.toDigits 10 (i.value / i.den)).length
  else -((Nat.toDigits 10 ((i.den - 1) / i.value)).length - 1 : Int)

/-- The nearest decimal of so many digits that reads back, if there is one. -/
def candidate? (i : Interval) (count : Nat) : Option (Nat × Int) :=
  let power := magnitude i - count
  let (num, den) := if 0 ≤ power then (i.value, i.den * Nat.pow 10 power.toNat)
    else (i.value * Nat.pow 10 (-power).toNat, i.den)
  let below := num / den
  let nearest := roundDiv num den
  let other := if nearest = below then below + 1 else below
  if i.holds nearest power then some (nearest, power)
  else if i.holds other power then some (other, power)
  else none

/-- Digits and a power of ten, in positional notation. -/
def positional (digits : List Char) (power : Int) : List Char :=
  if 0 ≤ power then digits ++ List.replicate power.toNat '0'
  else
    let places := (-power).toNat
    let digits := List.replicate (places + 1 - digits.length) '0' ++ digits
    let whole := digits.take (digits.length - places)
    let fraction := (digits.drop (digits.length - places)).reverse.dropWhile (· = '0')
    whole ++ (if fraction.isEmpty then [] else '.' :: fraction.reverse)

def write : Double → String
  | nan => "NaN"
  | infinite negative => if negative then "-inf" else "inf"
  | finite negative s e =>
    let sign := if negative then ['-'] else []
    if s = 0 then String.ofList (sign ++ ['0'])
    else
      let i := interval s e
      match (List.range 18).findSome? (fun n => if n = 0 then none else candidate? i n) with
      | some (digits, power) => String.ofList (sign ++ positional (Nat.toDigits 10 digits) power)
      | none => String.ofList (sign ++ Nat.toDigits 10 (i.value / i.den))

end Double

end KeyCustody
