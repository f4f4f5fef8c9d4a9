/-!
# DER

Nested values, each with a tag and a length in the shortest form. A value is short: one that is as
long as two bytes can say, or longer, is refused.
-/

namespace KeyCustody.Trust

/-- A value with the bytes of its content, and the bytes after it. -/
structure Item where
  tag : UInt8
  content : List UInt8
  rest : List UInt8

namespace Item

/-- The tags that certificates are made of. -/
def boolean : UInt8 := 0x01
def integer : UInt8 := 0x02
def bitString : UInt8 := 0x03
def octetString : UInt8 := 0x04
def identifier : UInt8 := 0x06
def sequence : UInt8 := 0x30
def version : UInt8 := 0xA0
def extensions : UInt8 := 0xA3

/-- The least length that is refused. -/
def lengthLimit : Nat := 0xFFFF

/-- A length, in one byte or after the number of its bytes; no shorter form may exist. -/
def length? : List UInt8 → Option (Nat × List UInt8)
  | [] => none
  | n :: bytes =>
    let n := n.toNat
    if n < 0x80 then some (n, bytes)
    else
      let size := n - 0x80
      let digits := bytes.take size
      let value := digits.foldl (fun v b => v * 256 + b.toNat) 0
      if 1 ≤ size ∧ size ≤ 4 ∧ digits.length = size ∧ 0x80 ≤ value ∧
          Nat.pow 256 (size - 1) ≤ value then
        some (value, bytes.drop size)
      else none

theorem length_of_length? {bytes rest : List UInt8} {n : Nat}
    (h : length? bytes = some (n, rest)) : rest.length < bytes.length := by
  cases bytes with
  | nil => simp [length?] at h
  | cons b bytes =>
    simp only [length?] at h
    split at h
    · simp only [Option.some.injEq, Prod.mk.injEq] at h
      simp [← h.2]
    · split at h
      · simp only [Option.some.injEq, Prod.mk.injEq] at h
        simp only [← h.2, List.length_drop, List.length_cons]
        omega
      · simp at h

/-- The first value of a row of bytes. A tag of several bytes is refused. -/
def read? : List UInt8 → Option Item
  | [] => none
  | tag :: bytes =>
    match length? bytes with
    | none => none
    | some (size, bytes) =>
      if tag.toNat % 32 ≠ 31 ∧ size < lengthLimit ∧ size ≤ bytes.length then
        some ⟨tag, bytes.take size, bytes.drop size⟩
      else none

theorem length_rest_of_read? {bytes : List UInt8} {item : Item} (h : read? bytes = some item) :
    item.rest.length < bytes.length := by
  cases bytes with
  | nil => simp [read?] at h
  | cons tag bytes =>
    simp only [read?] at h
    split at h
    · simp at h
    · rename_i hl
      have := length_of_length? hl
      split at h
      · simp only [Option.some.injEq] at h
        simp only [← h, List.length_drop, List.length_cons]
        omega
      · simp at h

/-- The content of a value with this tag, and the bytes after it. -/
def expect? (tag : UInt8) (bytes : List UInt8) : Option (List UInt8 × List UInt8) := do
  let item ← read? bytes
  if item.tag = tag then some (item.content, item.rest) else none

/-- The content of a value with this tag, after which nothing follows. -/
def only? (tag : UInt8) (bytes : List UInt8) : Option (List UInt8) := do
  let (content, rest) ← expect? tag bytes
  if rest.isEmpty then some content else none

/-- The contents of a row of values that all have this tag. -/
def row? (tag : UInt8) (bytes : List UInt8) : Option (List (List UInt8)) :=
  if bytes.isEmpty then some []
  else
    match h : read? bytes with
    | none => none
    | some item =>
      have := length_rest_of_read? h
      if item.tag = tag then (row? tag item.rest).map (item.content :: ·) else none
termination_by bytes.length

end Item

end KeyCustody.Trust
