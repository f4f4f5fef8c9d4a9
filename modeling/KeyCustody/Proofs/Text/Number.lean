import KeyCustody.Text.Number
import Mathlib.Data.List.TakeWhile
import Mathlib.Data.Nat.Digits.Lemmas

/-!
# Numerals

A text is read as the number that its decimal digits denote, with or without a plus sign, and any other text is
refused. Zero has numerals too.
-/

namespace KeyCustody.Text

variable {cs : List Char} {c : Char} {n bound : Nat} {text : String} {digits : List Nat}

/-- The text is a numeral of the number: decimal digits, at least one, after a plus sign or none. -/
def Denotes (text : String) (n : Nat) : Prop :=
  ∃ digits : List Nat, digits ≠ [] ∧ (∀ d ∈ digits, d < 10) ∧ n = Nat.ofDigits 10 digits.reverse ∧
    (text.toList = digits.map Nat.digitChar ∨ text.toList = '+' :: digits.map Nat.digitChar)

theorem isDigit_digitChar {d : Nat} (small : d < 10) : (Nat.digitChar d).isDigit = true := by
  have all : ∀ d < 10, (Nat.digitChar d).isDigit = true := by decide
  exact all d small

theorem toNat_digitChar {d : Nat} (small : d < 10) : (Nat.digitChar d).toNat - 48 = d := by
  have all : ∀ d < 10, (Nat.digitChar d).toNat - 48 = d := by decide
  exact all d small

theorem digitChar_of_isDigit (h : c.isDigit = true) :
    c.toNat - 48 < 10 ∧ Nat.digitChar (c.toNat - 48) = c := by
  simp only [Char.isDigit, ge_iff_le, Bool.and_eq_true, decide_eq_true_eq] at h
  obtain ⟨low, high⟩ : 48 ≤ c.toNat ∧ c.toNat ≤ 57 := h
  have small : c.toNat - 48 < 10 := by omega
  refine ⟨small, Char.toNat_inj.1 ?_⟩
  rw [Nat.toNat_digitChar_of_lt_ten small]
  omega

theorem forall_isDigit {p : Char → Prop} (all : ∀ d < 10, p (Nat.digitChar d)) (h : c.isDigit = true) : p c := by
  obtain ⟨small, same⟩ := digitChar_of_isDigit h
  exact same ▸ all _ small

/-- Digits are read from the left, each worth a tenth of the one before it. -/
theorem foldl_digits (small : ∀ d ∈ digits, d < 10) :
    (digits.map Nat.digitChar).foldl (fun n c => n * 10 + (c.toNat - 48)) 0 =
      Nat.ofDigits 10 digits.reverse := by
  induction digits using List.reverseRecOn with
  | nil => rfl
  | append_singleton digits d ih =>
    obtain ⟨before, last⟩ := List.forall_mem_append.1 small
    rw [List.map_append, List.foldl_append, ih before, List.reverse_append]
    have own := toNat_digitChar (last d (List.mem_singleton_self d))
    simp only [List.map_cons, List.map_nil, List.foldl_cons, List.foldl_nil, List.reverse_singleton,
      List.singleton_append, Nat.ofDigits_cons, own]
    omega

theorem exists_digits (all : ∀ c ∈ cs, c.isDigit = true) :
    ∃ digits : List Nat, (∀ d ∈ digits, d < 10) ∧ cs = digits.map Nat.digitChar := by
  induction cs with
  | nil => exact ⟨[], List.forall_mem_nil _, rfl⟩
  | cons c cs ih =>
    obtain ⟨first, others⟩ := List.forall_mem_cons.1 all
    obtain ⟨digits, small, rfl⟩ := ih others
    obtain ⟨own, same⟩ := digitChar_of_isDigit first
    exact ⟨(c.toNat - 48) :: digits, List.forall_mem_cons.2 ⟨own, small⟩, by rw [List.map_cons, same]⟩

/-- Nothing that continues a row of digits comes first. -/
def Stops (cs : List Char) : Prop := ∀ c ∈ cs.head?, c.isDigit = false

theorem takeWhile_digits {ds rest : List Char} (digits : ∀ c ∈ ds, c.isDigit = true) (stops : Stops rest) :
    (ds ++ rest).takeWhile Char.isDigit = ds := by
  rw [List.takeWhile_append_of_pos digits]
  cases rest with
  | nil => simp
  | cons c rest => simp [stops c rfl]

theorem isDigit_toDigits (n : Nat) : ∀ c ∈ Nat.toDigits 10 n, c.isDigit = true := fun _ member =>
  Nat.isDigit_of_mem_toDigits (by decide) (by decide) member

/-- The decimal digits of a number are read as it. -/
theorem foldl_toDigits (n : Nat) : (Nat.toDigits 10 n).foldl (fun n c => n * 10 + (c.toNat - 48)) 0 = n := by
  have written := @Nat.ofDigitChars_ten_toDigits n
  simp only [Nat.ofDigitChars, Nat.mul_comm 10] at written
  exact written

theorem foldl_lt (all : ∀ c ∈ cs, c.isDigit = true) :
    cs.foldl (fun n c => n * 10 + (c.toNat - 48)) 0 < 10 ^ cs.length := by
  obtain ⟨digits, small, rfl⟩ := exists_digits all
  rw [foldl_digits small, List.length_map, ← List.length_reverse]
  exact Nat.ofDigits_lt_base_pow_length (by decide) fun d held => small d (List.mem_reverse.1 held)

theorem digitsValue?_digits (some : digits ≠ []) (small : ∀ d ∈ digits, d < 10) :
    digitsValue? (digits.map Nat.digitChar) = Option.some (Nat.ofDigits 10 digits.reverse) := by
  have filled : (digits.map Nat.digitChar).isEmpty = false := by simpa using some
  have all : (digits.map Nat.digitChar).all Char.isDigit = true := by
    rw [List.all_map]
    exact List.all_eq_true.2 fun d held => isDigit_digitChar (small d held)
  rw [digitsValue?, filled, all, foldl_digits small]
  rfl

theorem digitsValue?_eq_some : digitsValue? cs = some n ↔ ∃ digits : List Nat, digits ≠ [] ∧
    (∀ d ∈ digits, d < 10) ∧ n = Nat.ofDigits 10 digits.reverse ∧ cs = digits.map Nat.digitChar := by
  constructor
  · intro h
    have good : ¬(cs.isEmpty || !cs.all Char.isDigit) = true := by
      intro bad
      rw [digitsValue?, if_pos bad] at h
      cases h
    obtain ⟨filled, all⟩ : cs ≠ [] ∧ ∀ c ∈ cs, c.isDigit = true := by simpa using good
    obtain ⟨digits, small, rfl⟩ := exists_digits all
    have some : digits ≠ [] := by simpa using filled
    rw [digitsValue?_digits some small] at h
    exact ⟨digits, some, small, (Option.some.inj h).symm, rfl⟩
  · rintro ⟨digits, some, small, rfl, rfl⟩
    exact digitsValue?_digits some small

theorem natural?_signed (signed : text.toList = '+' :: cs) :
    natural? bound text = (digitsValue? cs).bind fun n => if n ≤ bound then some n else none := by
  unfold natural?
  rw [signed]
  rfl

theorem natural?_plain (plain : ∀ cs, text.toList ≠ '+' :: cs) :
    natural? bound text = (digitsValue? text.toList).bind fun n => if n ≤ bound then some n else none := by
  unfold natural?
  generalize text.toList = cs at plain
  cases cs with
  | nil => rfl
  | cons c cs =>
    have unsigned : c ≠ '+' := fun same => plain cs (by rw [same])
    split
    · rename_i same
      cases same
      exact absurd rfl unsigned
    · rfl

/-- A number is read exactly from its numerals, up to a bound. -/
theorem natural?_eq_some : natural? bound text = some n ↔ Denotes text n ∧ n ≤ bound := by
  have within : ∀ read : Option Nat, (read.bind fun n => if n ≤ bound then some n else none) = some n ↔
      read = some n ∧ n ≤ bound := by
    intro read
    cases read with
    | none => simp
    | some m =>
      simp only [Option.bind_some, Option.ite_none_right_eq_some, Option.some.injEq]
      constructor
      · rintro ⟨le, rfl⟩
        exact ⟨rfl, le⟩
      · rintro ⟨rfl, le⟩
        exact ⟨le, rfl⟩
  by_cases signed : ∃ cs, text.toList = '+' :: cs
  · obtain ⟨cs, signed⟩ := signed
    rw [natural?_signed signed, within, digitsValue?_eq_some]
    refine and_congr_left fun _ => exists_congr fun digits => ?_
    refine and_congr_right fun _ => and_congr_right fun small => and_congr_right fun _ => ?_
    rw [signed]
    constructor
    · rintro rfl
      exact .inr rfl
    · rintro (unsigned | same)
      · have head : '+' ∈ digits.map Nat.digitChar := unsigned ▸ List.mem_cons_self
        obtain ⟨d, held, same⟩ := List.mem_map.1 head
        exact absurd (same ▸ isDigit_digitChar (small d held)) (by decide)
      · exact (List.cons.inj same).2
  · have plain : ∀ cs, text.toList ≠ '+' :: cs := fun cs same => signed ⟨cs, same⟩
    rw [natural?_plain plain, within, digitsValue?_eq_some]
    refine and_congr_left fun _ => exists_congr fun digits => ?_
    refine and_congr_right fun _ => and_congr_right fun _ => and_congr_right fun _ => ?_
    exact ⟨.inl, fun either => either.resolve_right (plain _)⟩

end KeyCustody.Text
