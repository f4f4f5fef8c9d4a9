/-!
# UTF-8

The bytes of a text, and reading bytes as text: either all of them have to be sound, or each longest
beginning of a character that cannot be completed becomes one U+FFFD.
-/

namespace KeyCustody.Text.Utf8

def encode (cs : List Char) : List UInt8 :=
  cs.flatMap String.utf8EncodeChar

/-- The text of a sequence of bytes, if all of them are sound. -/
def decode? (bytes : List UInt8) : Option String :=
  String.fromUTF8? ⟨bytes.toArray⟩

def isContinuation (b : UInt8) : Bool :=
  0x80 ≤ b && b ≤ 0xBF

/-- The number of bytes a first byte asks for, and the values its second byte may take. -/
def shape? (b : UInt8) : Option (Nat × UInt8 × UInt8) :=
  if 0xC2 ≤ b && b ≤ 0xDF then some (2, 0x80, 0xBF)
  else if b = 0xE0 then some (3, 0xA0, 0xBF)
  else if b = 0xED then some (3, 0x80, 0x9F)
  else if 0xE1 ≤ b && b ≤ 0xEF then some (3, 0x80, 0xBF)
  else if b = 0xF0 then some (4, 0x90, 0xBF)
  else if 0xF1 ≤ b && b ≤ 0xF3 then some (4, 0x80, 0xBF)
  else if b = 0xF4 then some (4, 0x80, 0x8F)
  else none

/-- The six low bits of a continuation byte. -/
def low (b : UInt8) : Nat := b.toNat % 64

/-- The first character of a sequence of bytes, and how many of the bytes after the first it
takes; U+FFFD stands for a beginning that cannot be completed. -/
def next (b : UInt8) (rest : List UInt8) : Char × Nat :=
  if b < 0x80 then (Char.ofNat b.toNat, 0)
  else
    match shape? b, rest with
    | some (size, lo, hi), c :: rest =>
      if lo ≤ c && c ≤ hi then
        if size = 2 then (Char.ofNat (b.toNat % 32 * 64 + low c), 1)
        else
          match rest with
          | [] => (Char.ofNat 0xFFFD, 1)
          | d :: rest =>
            if isContinuation d then
              if size = 3 then (Char.ofNat ((b.toNat % 16 * 64 + low c) * 64 + low d), 2)
              else
                match rest with
                | [] => (Char.ofNat 0xFFFD, 2)
                | e :: _ =>
                  if isContinuation e then
                    (Char.ofNat (((b.toNat % 8 * 64 + low c) * 64 + low d) * 64 + low e), 3)
                  else (Char.ofNat 0xFFFD, 2)
            else (Char.ofNat 0xFFFD, 1)
      else (Char.ofNat 0xFFFD, 0)
    | _, _ => (Char.ofNat 0xFFFD, 0)

/-- The text of a sequence of bytes, damaged places replaced. -/
def decodeLossy : List UInt8 → List Char
  | [] => []
  | b :: rest => (next b rest).1 :: decodeLossy (rest.drop (next b rest).2)
termination_by bytes => bytes.length
decreasing_by rw [List.length_drop, List.length_cons]; omega

end KeyCustody.Text.Utf8
