import KeyCustody.Text.Base64
import Mathlib.Data.List.Basic

/-!
# Base64 read back

What is written is read back byte by byte: each group by itself, as no digit is taken for padding. Whole groups of bytes
and of letters are one number in two bases.
-/

namespace KeyCustody.Text.Base64

theorem digit_ne_pad {v : Nat} (h : v < 64) : digit v ≠ '=' := by
  have all : ∀ w ∈ List.range 64, digit w ≠ '=' := by decide
  exact all v (List.mem_range.2 h)

/-- A whole group is not taken for a padded one. -/
theorem decodeChars_group {w x y z : Nat} (hw : w < 64) (hx : x < 64) (hy : y < 64) (hz : z < 64) (rest : List Char) :
    decodeChars (digit w :: digit x :: digit y :: digit z :: rest) =
      (decodeChars rest).map fun bytes =>
        let n := ((w * 64 + x) * 64 + y) * 64 + z
        UInt8.ofNat (n / 65536) :: UInt8.ofNat (n / 256) :: UInt8.ofNat n :: bytes := by
  rw [decodeChars]
  · simp only [value?_digit hw, value?_digit hx, value?_digit hy, value?_digit hz, bind, Option.bind, pure]
    cases decodeChars rest <;> rfl
  · rintro same -
    exact absurd same (digit_ne_pad hy)
  · rintro same
    exact absurd same (digit_ne_pad hz)

/-- Nor is a last group of two bytes taken for one of one byte. -/
theorem decodeChars_pair {w x y : Nat} (hw : w < 64) (hx : x < 64) (hy : y < 64) :
    decodeChars [digit w, digit x, digit y, '='] =
      if ((w * 64 + x) * 64 + y) % 4 = 0 then
        some [UInt8.ofNat (((w * 64 + x) * 64 + y) / 1024), UInt8.ofNat (((w * 64 + x) * 64 + y) / 4)]
      else none := by
  rw [decodeChars]
  · simp only [value?_digit hw, value?_digit hx, value?_digit hy, bind, Option.bind]
  · exact digit_ne_pad hy

/-- Of a number only the lowest byte is kept. -/
theorem ofNat_low (n : Nat) (b : UInt8) : UInt8.ofNat (n * 256 + b.toNat) = b := by
  apply UInt8.toNat_inj.1
  have small : b.toNat < 256 := b.toNat_lt
  rw [UInt8.toNat_ofNat']
  omega

theorem decodeChars_encodeChars (bytes : List UInt8) : decodeChars (encodeChars bytes) = some bytes := by
  induction bytes using encodeChars.induct with
  | case1 => rfl
  | case2 a =>
    have small : a.toNat < 256 := a.toNat_lt
    have first : a.toNat / 4 < 64 := by omega
    have last : a.toNat % 4 * 16 < 64 := by omega
    have whole : a.toNat / 4 * 64 + a.toNat % 4 * 16 = a.toNat * 16 := by omega
    simp only [encodeChars, decodeChars, value?_digit first, value?_digit last, bind, Option.bind, whole]
    simp
  | case3 a b =>
    have small : a.toNat < 256 := a.toNat_lt
    have small' : b.toNat < 256 := b.toNat_lt
    rw [encodeChars, decodeChars_pair (by omega) (by omega) (by omega)]
    have whole : ((a.toNat * 256 + b.toNat) / 1024 * 64 + (a.toNat * 256 + b.toNat) / 16 % 64) * 64 +
        (a.toNat * 256 + b.toNat) % 16 * 4 = (a.toNat * 256 + b.toNat) * 4 := by omega
    have first : (a.toNat * 256 + b.toNat) * 4 / 1024 = a.toNat := by omega
    have last : (a.toNat * 256 + b.toNat) * 4 / 4 = a.toNat * 256 + b.toNat := by omega
    rw [whole, if_pos (Nat.mul_mod_left _ 4), first, last, UInt8.ofNat_toNat, ofNat_low]
  | case4 a b c rest ih =>
    have small : a.toNat < 256 := a.toNat_lt
    have small' : b.toNat < 256 := b.toNat_lt
    have small'' : c.toNat < 256 := c.toNat_lt
    rw [encodeChars, decodeChars_group (by omega) (by omega) (by omega) (by omega), ih]
    have whole : ((((a.toNat * 256 + b.toNat) * 256 + c.toNat) / 262144 * 64 +
        ((a.toNat * 256 + b.toNat) * 256 + c.toNat) / 4096 % 64) * 64 +
        ((a.toNat * 256 + b.toNat) * 256 + c.toNat) / 64 % 64) * 64 +
        ((a.toNat * 256 + b.toNat) * 256 + c.toNat) % 64 = (a.toNat * 256 + b.toNat) * 256 + c.toNat := by omega
    have first : ((a.toNat * 256 + b.toNat) * 256 + c.toNat) / 65536 = a.toNat := by omega
    have middle : ((a.toNat * 256 + b.toNat) * 256 + c.toNat) / 256 = a.toNat * 256 + b.toNat := by omega
    simp only [Option.map_some, whole, first, middle, UInt8.ofNat_toNat, ofNat_low]

theorem decode?_encode (bytes : List UInt8) : decode? (encode bytes) = some bytes := by
  rw [decode?, encode, String.toList_ofList, decodeChars_encodeChars]

/-- Only no bytes at all are written as the empty text. -/
theorem encode_eq_empty {bytes : List UInt8} : encode bytes = "" ↔ bytes = [] := by
  constructor
  · intro empty
    have back := decode?_encode bytes
    rw [empty] at back
    exact (Option.some.inj back).symm
  · rintro rfl
    rfl

/-! ## The standard -/

def alphabet : List Char := "ABCDEFGHIJKLMNOPQRSTUVWXYZabcdefghijklmnopqrstuvwxyz0123456789+/".toList

def letter (v : Nat) : Char := alphabet.getD v '='

theorem digit_eq_letter {v : Nat} (h : v < 64) : digit v = letter v := by
  have all : ∀ w ∈ List.range 64, digit w = letter w := by decide
  exact all v (List.mem_range.2 h)

/-- The number that digits make when they are read behind those of another number. -/
def numeral (base : Nat) (before : Nat) (digits : List Nat) : Nat :=
  digits.foldl (fun n d => n * base + d) before

/-- Letters stand for digits in base 64 and bytes for digits in base 256. Both make up whole groups, of four and of
three, and the same number, where zeros fill what is missing from the last group. -/
def Spells (text : String) (bytes : List UInt8) : Prop :=
  ∃ (values : List Nat) (padding : Nat), (∀ v ∈ values, v < 64) ∧ padding < 3 ∧
    text.toList = values.map letter ++ List.replicate padding '=' ∧
    3 * (values.length + padding) = 4 * (bytes.length + padding) ∧
    numeral 64 0 (values ++ List.replicate padding 0) =
      numeral 256 0 (bytes.map UInt8.toNat ++ List.replicate padding 0)

theorem spells_encodeChars (bytes : List UInt8) : ∃ (values : List Nat) (padding : Nat), (∀ v ∈ values, v < 64) ∧
    padding < 3 ∧ encodeChars bytes = values.map letter ++ List.replicate padding '=' ∧
    3 * (values.length + padding) = 4 * (bytes.length + padding) ∧
    ∀ n, numeral 64 n (values ++ List.replicate padding 0) =
      numeral 256 n (bytes.map UInt8.toNat ++ List.replicate padding 0) := by
  induction bytes using encodeChars.induct with
  | case1 => exact ⟨[], 0, List.forall_mem_nil _, by decide, rfl, rfl, fun _ => rfl⟩
  | case2 a =>
    have small : a.toNat < 256 := a.toNat_lt
    have first : a.toNat / 4 < 64 := by omega
    have last : a.toNat % 4 * 16 < 64 := by omega
    refine ⟨[a.toNat / 4, a.toNat % 4 * 16], 2, by simp [first, last], by decide, ?_, rfl, fun n => ?_⟩
    · simp only [encodeChars, digit_eq_letter first, digit_eq_letter last]
      rfl
    · simp only [numeral, List.map, List.replicate, List.cons_append, List.nil_append, List.foldl]
      omega
  | case3 a b =>
    have small : a.toNat < 256 := a.toNat_lt
    have small' : b.toNat < 256 := b.toNat_lt
    have first : (a.toNat * 256 + b.toNat) / 1024 < 64 := by omega
    have middle : (a.toNat * 256 + b.toNat) / 16 % 64 < 64 := by omega
    have last : (a.toNat * 256 + b.toNat) % 16 * 4 < 64 := by omega
    refine ⟨[_, _, _], 1, by simpa using ⟨first, middle, last⟩, by decide, ?_, rfl, fun n => ?_⟩
    · simp only [encodeChars, digit_eq_letter first, digit_eq_letter middle, digit_eq_letter last]
      rfl
    · simp only [numeral, List.map, List.replicate, List.cons_append, List.nil_append, List.foldl]
      omega
  | case4 a b c rest ih =>
    obtain ⟨values, padding, digits, few, spelled, whole, same⟩ := ih
    obtain ⟨group, own⟩ : ∃ group, group = (a.toNat * 256 + b.toNat) * 256 + c.toNat := ⟨_, rfl⟩
    have bound : group < 16777216 := by
      have small : a.toNat < 256 := a.toNat_lt
      have small' : b.toNat < 256 := b.toNat_lt
      have small'' : c.toNat < 256 := c.toNat_lt
      omega
    have first : group / 262144 < 64 := by omega
    have second : group / 4096 % 64 < 64 := by omega
    have third : group / 64 % 64 < 64 := by omega
    have last : group % 64 < 64 := by omega
    refine ⟨group / 262144 :: group / 4096 % 64 :: group / 64 % 64 :: group % 64 :: values, padding, ?_, few, ?_, ?_, ?_⟩
    · simpa only [List.forall_mem_cons] using ⟨first, second, third, last, digits⟩
    · simp only [encodeChars, ← own, digit_eq_letter first, digit_eq_letter second, digit_eq_letter third,
        digit_eq_letter last, spelled]
      rfl
    · simp only [List.length_cons]
      omega
    · intro n
      -- The four letters and the three bytes lead from one number to one and the same.
      have ahead : (((n * 64 + group / 262144) * 64 + group / 4096 % 64) * 64 + group / 64 % 64) * 64 + group % 64 =
          ((n * 256 + a.toNat) * 256 + b.toNat) * 256 + c.toNat := by omega
      have rest := same (((n * 256 + a.toNat) * 256 + b.toNat) * 256 + c.toNat)
      simpa only [numeral, List.map_cons, List.cons_append, List.foldl_cons, ahead] using rest

theorem spells_encode (bytes : List UInt8) : Spells (encode bytes) bytes := by
  obtain ⟨values, padding, digits, few, spelled, whole, same⟩ := spells_encodeChars bytes
  exact ⟨values, padding, digits, few, by rw [encode, String.toList_ofList, spelled], whole, same 0⟩

end KeyCustody.Text.Base64
