import KeyCustody.Text.Utf8

/-!
# UTF-8 read back

The bytes of a text are read as that text, and no other bytes are. All bytes of a character outside ASCII lie outside
ASCII too. Which bytes are those of a text is told from the bytes alone, character by character.
-/

namespace KeyCustody.Text.Utf8

variable {c : Char} {cs ds : List Char} {text : String} {bytes : List UInt8} {b : UInt8}

theorem encode_append : encode (cs ++ ds) = encode cs ++ encode ds :=
  List.flatMap_append

theorem encode_cons : encode (c :: cs) = String.utf8EncodeChar c ++ encode cs :=
  List.flatMap_cons

theorem utf8Encode_eq : cs.utf8Encode = ⟨(encode cs).toArray⟩ := by
  apply ByteArray.ext
  rw [List.utf8Encode, List.data_toByteArray]
  rfl

theorem decode?_eq_some : decode? bytes = some text ↔ bytes = encode text.toList := by
  have own : (⟨bytes.toArray⟩ : ByteArray) = text.toByteArray ↔ bytes = encode text.toList := by
    rw [← String.utf8Encode_toList, utf8Encode_eq, ByteArray.mk.injEq]
    exact ⟨List.toArray_inj, congrArg List.toArray⟩
  rw [← own, decode?, String.fromUTF8?]
  constructor
  · intro h
    split at h
    next => rw [← Option.some.inj h]; rfl
    next => cases h
  · intro same
    rw [dif_pos (same ▸ text.isValidUTF8)]
    exact congrArg some (String.toByteArray_inj.1 same)

theorem decode?_encode : decode? (encode cs) = some (String.ofList cs) :=
  decode?_eq_some.2 (by rw [String.toList_ofList])

theorem utf8EncodeChar_ascii (h : c.toNat < 128) : String.utf8EncodeChar c = [UInt8.ofNat c.toNat] :=
  if_pos (Nat.le_of_lt_succ h)

theorem high_of_mem_utf8EncodeChar (h : 128 ≤ c.toNat) (member : b ∈ String.utf8EncodeChar c) : 128 ≤ b.toNat := by
  have high : ¬c.val.toNat ≤ 0x7f := Nat.not_le.2 h
  have lead : ∀ n m, 128 ≤ m → n + m < 256 → b = UInt8.ofNat (n + m) → 128 ≤ b.toNat := by
    rintro n m low small rfl
    rw [UInt8.toNat_ofNat', Nat.mod_eq_of_lt small]
    exact Nat.le_add_left_of_le low
  have next : ∀ n, b = UInt8.ofNat (n % 64 + 128) → 128 ≤ b.toNat := fun n =>
    lead (n % 64) 128 (by decide) (by omega)
  simp only [String.utf8EncodeChar, high, if_false] at member
  split at member
  · simp only [List.mem_cons, List.not_mem_nil, or_false] at member
    rcases member with first | rest
    · exact lead _ _ (by decide) (by omega) first
    · exact next _ rest
  · split at member
    · simp only [List.mem_cons, List.not_mem_nil, or_false] at member
      rcases member with first | rest | rest
      · exact lead _ _ (by decide) (by omega) first
      · exact next _ rest
      · exact next _ rest
    · simp only [List.mem_cons, List.not_mem_nil, or_false] at member
      rcases member with first | rest | rest | rest
      · exact lead _ _ (by decide) (by omega) first
      · exact next _ rest
      · exact next _ rest
      · exact next _ rest

/-! ## Well-formed bytes -/

/-- A byte after the first of a character. -/
def Continues (b : UInt8) : Prop := 0x80 ≤ b.toNat ∧ b.toNat ≤ 0xBF

/-- The bytes of one character: no more than it needs, no half of a surrogate pair, and nothing past the last
character. -/
inductive OneCharacter : List UInt8 → Prop
  | one {a : UInt8} (lead : a.toNat ≤ 0x7F) : OneCharacter [a]
  | two {a b : UInt8} (lead : 0xC2 ≤ a.toNat ∧ a.toNat ≤ 0xDF) (second : Continues b) : OneCharacter [a, b]
  | three {a b c : UInt8} (lead : 0xE0 ≤ a.toNat ∧ a.toNat ≤ 0xEF) (second : Continues b) (third : Continues c)
    (short : a.toNat = 0xE0 → 0xA0 ≤ b.toNat) (whole : a.toNat = 0xED → b.toNat ≤ 0x9F) : OneCharacter [a, b, c]
  | four {a b c d : UInt8} (lead : 0xF0 ≤ a.toNat ∧ a.toNat ≤ 0xF4) (second : Continues b) (third : Continues c)
    (fourth : Continues d) (short : a.toNat = 0xF0 → 0x90 ≤ b.toNat) (known : a.toNat = 0xF4 → b.toNat ≤ 0x8F) :
    OneCharacter [a, b, c, d]

/-- Bytes that are those of characters, one behind the other. -/
inductive WellFormed : List UInt8 → Prop
  | nil : WellFormed []
  | append {own rest : List UInt8} (first : OneCharacter own) (others : WellFormed rest) : WellFormed (own ++ rest)

theorem toNat_ofNat_small {n : Nat} (small : n < 256) : (UInt8.ofNat n).toNat = n := by
  rw [UInt8.toNat_ofNat', Nat.mod_eq_of_lt small]

theorem oneCharacter_utf8EncodeChar (c : Char) : OneCharacter (String.utf8EncodeChar c) := by
  have valid : c.val.toNat < 55296 ∨ 57343 < c.val.toNat ∧ c.val.toNat < 1114112 := c.valid
  unfold String.utf8EncodeChar
  dsimp only
  generalize c.val.toNat = v at valid
  have continues : ∀ n, Continues (UInt8.ofNat (n % 64 + 128)) := fun n => by
    rw [Continues, toNat_ofNat_small (by omega)]
    omega
  split
  · exact .one (by rw [toNat_ofNat_small (by omega)]; omega)
  · split
    · exact .two (by rw [toNat_ofNat_small (by omega)]; omega) (continues _)
    · split
      · refine .three ?_ (continues _) (continues _) ?_ ?_
        all_goals simp (disch := omega) only [toNat_ofNat_small]
        all_goals omega
      · refine .four ?_ (continues _) (continues _) (continues _) ?_ ?_
        all_goals simp (disch := omega) only [toNat_ofNat_small]
        all_goals omega

theorem exists_char {n : Nat} (valid : n.isValidChar) : ∃ c : Char, c.val.toNat = n :=
  ⟨Char.ofNatAux n valid, rfl⟩

theorem ofNat_eq {n : Nat} (same : n = b.toNat) : UInt8.ofNat n = b := by
  rw [same, UInt8.ofNat_toNat]

theorem OneCharacter.encoded (h : OneCharacter bytes) : ∃ c, String.utf8EncodeChar c = bytes := by
  cases h with
  | @one a lead =>
    obtain ⟨c, point⟩ := exists_char (n := a.toNat) (.inl (by omega))
    refine ⟨c, ?_⟩
    rw [String.utf8EncodeChar, point, if_pos lead, UInt8.ofNat_toNat]
  | @two a b lead second =>
    obtain ⟨low, high⟩ := second
    obtain ⟨c, point⟩ := exists_char (n := a.toNat % 32 * 64 + b.toNat % 64) (.inl (by omega))
    refine ⟨c, ?_⟩
    rw [String.utf8EncodeChar, point, if_neg (by omega), if_pos (by omega)]
    simp only [List.cons.injEq, and_true]
    exact ⟨ofNat_eq (by omega), ofNat_eq (by omega)⟩
  | @three a b c lead second third short whole =>
    obtain ⟨low, high⟩ := second
    obtain ⟨low', high'⟩ := third
    obtain ⟨d, point⟩ := exists_char (n := (a.toNat % 16 * 64 + b.toNat % 64) * 64 + c.toNat % 64)
      (by unfold Nat.isValidChar; omega)
    refine ⟨d, ?_⟩
    rw [String.utf8EncodeChar, point, if_neg (by omega), if_neg (by omega), if_pos (by omega)]
    simp only [List.cons.injEq, and_true]
    exact ⟨ofNat_eq (by omega), ofNat_eq (by omega), ofNat_eq (by omega)⟩
  | @four a b c d lead second third fourth short known =>
    obtain ⟨low, high⟩ := second
    obtain ⟨low', high'⟩ := third
    obtain ⟨low'', high''⟩ := fourth
    obtain ⟨e, point⟩ := exists_char
      (n := ((a.toNat % 8 * 64 + b.toNat % 64) * 64 + c.toNat % 64) * 64 + d.toNat % 64)
      (by unfold Nat.isValidChar; omega)
    refine ⟨e, ?_⟩
    rw [String.utf8EncodeChar, point, if_neg (by omega), if_neg (by omega), if_neg (by omega)]
    simp only [List.cons.injEq, and_true]
    exact ⟨ofNat_eq (by omega), ofNat_eq (by omega), ofNat_eq (by omega), ofNat_eq (by omega)⟩

theorem oneCharacter_iff : OneCharacter bytes ↔ ∃ c, String.utf8EncodeChar c = bytes := by
  refine ⟨OneCharacter.encoded, ?_⟩
  rintro ⟨c, rfl⟩
  exact oneCharacter_utf8EncodeChar c

theorem wellFormed_iff : WellFormed bytes ↔ ∃ cs, encode cs = bytes := by
  constructor
  · intro h
    induction h with
    | nil => exact ⟨[], rfl⟩
    | append first _ ih =>
      obtain ⟨c, rfl⟩ := oneCharacter_iff.1 first
      obtain ⟨cs, rfl⟩ := ih
      exact ⟨c :: cs, encode_cons⟩
  · rintro ⟨cs, rfl⟩
    induction cs with
    | nil => exact .nil
    | cons c cs ih =>
      rw [encode_cons]
      exact .append (oneCharacter_iff.2 ⟨c, rfl⟩) ih

end KeyCustody.Text.Utf8
