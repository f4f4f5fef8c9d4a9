/-!
# Base64

The standard alphabet with padding: three bytes become four characters, and a last group of one
or two bytes is padded to four with `=`.
-/

namespace KeyCustody.Text.Base64

def digit (v : Nat) : Char :=
  if v < 26 then Char.ofNat (65 + v)
  else if v < 52 then Char.ofNat (97 + (v - 26))
  else if v < 62 then Char.ofNat (48 + (v - 52))
  else if v = 62 then '+' else '/'

def value? (c : Char) : Option Nat :=
  let n := c.toNat
  if 65 ≤ n ∧ n ≤ 90 then some (n - 65)
  else if 97 ≤ n ∧ n ≤ 122 then some (n - 97 + 26)
  else if 48 ≤ n ∧ n ≤ 57 then some (n - 48 + 52)
  else if n = 43 then some 62
  else if n = 47 then some 63
  else none

theorem value?_digit {v : Nat} (h : v < 64) : value? (digit v) = some v := by
  have all : ∀ w ∈ List.range 64, value? (digit w) = some w := by decide
  exact all v (List.mem_range.2 h)

def encodeChars : List UInt8 → List Char
  | [] => []
  | [a] =>
    let n := a.toNat
    [digit (n / 4), digit (n % 4 * 16), '=', '=']
  | [a, b] =>
    let n := a.toNat * 256 + b.toNat
    [digit (n / 1024), digit (n / 16 % 64), digit (n % 16 * 4), '=']
  | a :: b :: c :: rest =>
    let n := (a.toNat * 256 + b.toNat) * 256 + c.toNat
    digit (n / 262144) :: digit (n / 4096 % 64) :: digit (n / 64 % 64) :: digit (n % 64) ::
      encodeChars rest

/-- The bytes written by a sequence of characters, if it is a written form: whole groups, padding
only at the end, and no bits lost in it. -/
def decodeChars : List Char → Option (List UInt8)
  | [] => some []
  | [w, x, '=', '='] => do
    let n := (← value? w) * 64 + (← value? x)
    if n % 16 = 0 then some [UInt8.ofNat (n / 16)] else none
  | [w, x, y, '='] => do
    let n := ((← value? w) * 64 + (← value? x)) * 64 + (← value? y)
    if n % 4 = 0 then some [UInt8.ofNat (n / 1024), UInt8.ofNat (n / 4)] else none
  | w :: x :: y :: z :: rest => do
    let n := (((← value? w) * 64 + (← value? x)) * 64 + (← value? y)) * 64 + (← value? z)
    return UInt8.ofNat (n / 65536) :: UInt8.ofNat (n / 256) :: UInt8.ofNat n :: (← decodeChars rest)
  | _ => none

/-- The bytes of a row of six-bit values. What is left of the last group may hold any bits. -/
def gather? : List Nat → Option (List UInt8)
  | [] => some []
  | [_] => none
  | [w, x] => some [UInt8.ofNat ((w * 64 + x) / 16)]
  | [w, x, y] =>
    let n := (w * 64 + x) * 64 + y
    some [UInt8.ofNat (n / 1024), UInt8.ofNat (n / 4)]
  | w :: x :: y :: z :: rest => do
    let n := ((w * 64 + x) * 64 + y) * 64 + z
    return UInt8.ofNat (n / 65536) :: UInt8.ofNat (n / 256) :: UInt8.ofNat n :: (← gather? rest)

/-- A blank in the written form: a space, a tab or an end of a line or page. -/
def isBlank (c : Char) : Bool :=
  c = ' ' || 9 ≤ c.toNat && c.toNat ≤ 13

/-- The bytes of a text that need not be as it is written: it may have blanks in it, and may leave
the padding out, but not a part of it. -/
def decodeLoose? (chars : List Char) : Option (List UInt8) := do
  let chars := chars.filter fun c => !isBlank c
  let body := chars.takeWhile (· ≠ '=')
  let padding := chars.dropWhile (· ≠ '=')
  let bytes ← gather? (← body.mapM value?)
  let isPadded := padding.all (· = '=') && padding.length ≤ 2 &&
    (body.length + padding.length) % 4 = 0
  if padding.isEmpty || isPadded then some bytes else none

def encode (bytes : List UInt8) : String :=
  String.ofList (encodeChars bytes)

def decode? (s : String) : Option (List UInt8) :=
  decodeChars s.toList

end KeyCustody.Text.Base64
