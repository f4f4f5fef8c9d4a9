import KeyCustody.Proofs.Text.Number
import KeyCustody.Proofs.Time.Calendar
import KeyCustody.Time.Rfc3339
import Mathlib.Data.List.TakeWhile

/-!
# Instants read back

The text of an instant is read as that instant, whatever its year. The instants that have such a text are those in
the years that can be written whose fraction is less than a second, or less than two in the last second of a minute;
no text is read as any other.
-/

namespace KeyCustody.Time

/-- The instant lies in the years that can be written. Only the last second of a minute is prolonged. -/
def Instant.Writable (t : Instant) : Prop :=
  t.inRange = true ∧ (t.nanos < 1000000000 ∨ t.nanos < 2000000000 ∧ t.seconds % 60 = 59)

namespace Rfc3339

open Text

variable {cs ds rest : List Char} {c : Char} {n width lo hi : Nat} {year : Int} {t : Instant}

/-! ## Digits -/

theorem isBlank_of_isDigit (h : c.isDigit = true) : isBlank c = false := by
  obtain ⟨low, high⟩ : 48 ≤ c.toNat ∧ c.toNat ≤ 57 := by simpa [Char.isDigit, UInt32.le_iff_toNat_le] using h
  simp only [isBlank, Bool.or_eq_false_iff, Bool.and_eq_false_iff, decide_eq_false_iff_not]
  omega

theorem valueOf_append (ds es : List Char) :
    valueOf (ds ++ es) = es.foldl (fun n c => n * 10 + (c.toNat - 48)) (valueOf ds) :=
  List.foldl_append

theorem valueOf_zeros (k : Nat) : valueOf (List.replicate k '0') = 0 := by
  induction k with
  | zero => rfl
  | succ k ih => rw [List.replicate_succ', valueOf_append, ih]; rfl

theorem valueOf_padded (width n : Nat) : valueOf (padded width n) = n := by
  rw [padded, valueOf_append, valueOf_zeros, foldl_toDigits]

theorem isDigit_padded (width n : Nat) : ∀ c ∈ padded width n, c.isDigit = true := by
  intro c member
  rcases List.mem_append.1 member with zero | digit
  · exact List.eq_of_mem_replicate zero ▸ rfl
  · exact isDigit_toDigits n c digit

theorem padded_ne_nil (width n : Nat) : padded width n ≠ [] :=
  List.append_ne_nil_of_right_ne_nil _ Nat.toDigits_ne_nil

theorem length_padded (some : 0 < width) (fits : n < 10 ^ width) : (padded width n).length = width := by
  have le : (Nat.toDigits 10 n).length ≤ width := (Nat.length_toDigits_le_iff (by decide) some).2 fits
  rw [padded, List.length_append, List.length_replicate]
  omega

theorem digits?_append (digits : ∀ c ∈ ds, c.isDigit = true) (some : ds ≠ []) (fits : ds.length ≤ width)
    (ends : ds.length = width ∨ Stops rest) : digits? width (ds ++ rest) = Option.some (ds, rest) := by
  have stops : Stops (rest.take (width - ds.length)) := by
    rcases ends with full | stops
    · rw [full, Nat.sub_self, List.take_zero]
      exact nofun
    · intro c head
      rw [List.head?_take] at head
      split at head
      · cases head
      · exact stops c head
  have taken : ((ds ++ rest).take width).takeWhile Char.isDigit = ds := by
    rw [List.take_append, List.take_of_length_le fits, takeWhile_digits digits stops]
  unfold digits?
  rw [taken]
  cases ds with
  | nil => exact absurd rfl some
  | cons d ds => simp only [List.drop_left]

/-! ## The parts of a text -/

theorem skipBlanks_cons (h : isBlank c = false) : skipBlanks (c :: cs) = c :: cs := by
  rw [skipBlanks, List.dropWhile_cons_of_neg (by rw [h]; decide)]

theorem skipBlanks_digits (digits : ∀ c ∈ ds, c.isDigit = true) (some : ds ≠ []) :
    skipBlanks (ds ++ rest) = ds ++ rest := by
  cases ds with
  | nil => exact absurd rfl some
  | cons d ds => exact skipBlanks_cons (isBlank_of_isDigit (digits d List.mem_cons_self))

theorem number?_padded (fits : n < 100) (low : lo ≤ n) (high : n ≤ hi) :
    number? 2 lo hi (padded 2 n ++ rest) = some (n, rest) := by
  have length : (padded 2 n).length = 2 := length_padded (by decide) fits
  unfold number?
  rw [skipBlanks_digits (isDigit_padded 2 n) (padded_ne_nil 2 n),
    digits?_append (isDigit_padded 2 n) (padded_ne_nil 2 n) (Nat.le_of_eq length) (.inl length)]
  simp only [bind, Option.bind, valueOf_padded, low, high, and_self, if_true]

theorem mark?_cons (h : isBlank c = false) : mark? c (c :: rest) = some rest := by
  unfold mark?
  rw [skipBlanks_cons h]
  exact if_pos rfl

/-- A year that begins with a digit carries no sign. -/
theorem year?_digits (digits : ∀ c ∈ ds, c.isDigit = true) (some : ds ≠ []) :
    year? (ds ++ rest) = (digits? 4 (ds ++ rest)).map fun (ds, rest) => ((valueOf ds : Int), rest) := by
  unfold year?
  rw [skipBlanks_digits digits some]
  cases ds with
  | nil => exact absurd rfl some
  | cons d ds =>
    have digit := digits d List.mem_cons_self
    split
    next same => cases same; exact absurd digit (by decide)
    next same => cases same; exact absurd digit (by decide)
    next => rfl

theorem year?_writeYear (stops : Stops rest) : year? (writeYear year ++ rest) = some (year, rest) := by
  have signed : digits? (padded 4 year.natAbs ++ rest).length (padded 4 year.natAbs ++ rest) =
      some (padded 4 year.natAbs, rest) :=
    digits?_append (isDigit_padded 4 _) (padded_ne_nil 4 _) (by simp) (.inr stops)
  unfold writeYear
  by_cases plain : 0 ≤ year ∧ year ≤ 9999
  · have length : (padded 4 year.toNat).length = 4 := length_padded (by decide) (by omega)
    rw [if_pos plain, year?_digits (isDigit_padded 4 _) (padded_ne_nil 4 _),
      digits?_append (isDigit_padded 4 _) (padded_ne_nil 4 _) (Nat.le_of_eq length) (.inl length)]
    simp only [Option.map_some, valueOf_padded, Int.toNat_of_nonneg plain.1]
  · rw [if_neg plain, List.cons_append]
    by_cases negative : year < 0
    · rw [if_pos negative]
      unfold year?
      rw [skipBlanks_cons (by decide)]
      simp only [signed, Option.map_some, valueOf_padded]
      rw [show -(year.natAbs : Int) = year by omega]
    · rw [if_neg negative]
      unfold year?
      rw [skipBlanks_cons (by decide)]
      simp only [signed, Option.map_some, valueOf_padded]
      rw [show (year.natAbs : Int) = year by omega]

/-- A fraction is written to the digit that keeps it, and read as so many nanoseconds again. -/
theorem fraction?_writeFraction (small : n < 1000000000) (stops : Stops rest) (other : rest.head? ≠ some '.') :
    fraction? (writeFraction n ++ rest) = some (n, rest) := by
  have digits : ∀ k m, 0 < k → k ≤ 9 → m < 10 ^ k → m * Nat.pow 10 (9 - k) = n →
      fraction? ('.' :: padded k m ++ rest) = some (n, rest) := by
    intro k m some le fits same
    have length : (padded k m).length = k := length_padded some fits
    have left : rest.dropWhile Char.isDigit = rest := by
      cases rest with
      | nil => rfl
      | cons c rest => exact List.dropWhile_cons_of_neg (by simp [stops c rfl])
    unfold fraction?
    simp only [List.cons_append, digits?_append (isDigit_padded k m) (padded_ne_nil k m) (length ▸ le) (.inr stops),
      bind, Option.bind, valueOf_padded, length, same, left]
  unfold writeFraction
  by_cases zero : n = 0
  · rw [if_pos zero, List.nil_append]
    unfold fraction?
    split
    next => exact absurd rfl other
    next => rw [zero]
  rw [if_neg zero]
  by_cases millis : n % 1000000 = 0
  · rw [if_pos millis]
    exact digits 3 _ (by decide) (by decide) (by omega) (by show n / 1000000 * 1000000 = n; omega)
  rw [if_neg millis]
  by_cases micros : n % 1000 = 0
  · rw [if_pos micros]
    exact digits 6 _ (by decide) (by decide) (by omega) (by show n / 1000 * 1000 = n; omega)
  · rw [if_neg micros]
    exact digits 9 _ (by decide) (by decide) (by omega) (Nat.mul_one n)

/-! ## Instants -/

/-- What the written parts of an instant are read as. -/
theorem readChars_parts {month day hour minute second nanos : Nat} (month_in : 1 ≤ month ∧ month ≤ 12)
    (day_in : 1 ≤ day ∧ day ≤ 31) (hour_in : hour ≤ 23) (minute_in : minute ≤ 59) (second_in : second ≤ 60)
    (nanos_in : nanos < 1000000000) :
    readChars (writeYear year ++ '-' :: (padded 2 month ++ '-' :: (padded 2 day ++ 'T' :: (padded 2 hour ++
      ':' :: (padded 2 minute ++ ':' :: (padded 2 second ++ (writeFraction nanos ++ ['Z']))))))) =
    let date := Date.mk year month day
    let wall : Instant := ⟨date.toDays * 86400 + (hour * 3600 + minute * 60 + min second 59 : Nat),
      nanos + (if second = 60 then 1000000000 else 0)⟩
    if date.isReal && wall.inRange then some wall else none := by
  have stops : ∀ {c rest}, c.isDigit = false → Stops (c :: rest) := by
    rintro c rest other d head
    cases head
    exact other
  have dash : ∀ rest, mark? '-' ('-' :: rest) = some rest := fun _ => mark?_cons (by decide)
  have colon : ∀ rest, mark? ':' (':' :: rest) = some rest := fun _ => mark?_cons (by decide)
  have final : fraction? (writeFraction nanos ++ ['Z']) = some (nanos, ['Z']) :=
    fraction?_writeFraction nanos_in (stops (by decide)) (by decide)
  have utc : skipBlanks ['Z'] = ['Z'] := skipBlanks_cons (by decide)
  unfold readChars
  simp only [bind, Option.bind, year?_writeYear (stops (show Char.isDigit '-' = false by decide)), dash, colon,
    separator?, number?_padded (show month < 100 by omega) month_in.1 month_in.2,
    number?_padded (show day < 100 by omega) day_in.1 day_in.2,
    number?_padded (show hour < 100 by omega) (Nat.zero_le hour) hour_in,
    number?_padded (show minute < 100 by omega) (Nat.zero_le minute) minute_in,
    number?_padded (show second < 100 by omega) (Nat.zero_le second) second_in, final, utc, offset?, Int.sub_zero]
  rw [Bool.and_assoc, Bool.and_assoc, Bool.and_self]
  rfl

theorem read?_write (writable : t.Writable) : read? (write t) = some t := by
  obtain ⟨inRange, small⟩ := writable
  obtain ⟨inDay, same, less, whole⟩ : ∃ inDay : Nat, (t.seconds.fmod 86400).toNat = inDay ∧ inDay < 86400 ∧
      t.seconds.fdiv 86400 * 86400 + inDay = t.seconds := by
    have rest := Int.fmod_eq_emod_of_nonneg t.seconds (show (0 : Int) ≤ 86400 by decide)
    have quotient := Int.fdiv_eq_ediv_of_nonneg t.seconds (show (0 : Int) ≤ 86400 by decide)
    refine ⟨(t.seconds.fmod 86400).toNat, rfl, ?_, ?_⟩ <;> rw [rest] <;> omega
  have real : t.date.isReal = true := Date.isReal_ofDays _
  have days : t.date.toDays = t.seconds.fdiv 86400 := Date.toDays_ofDays _
  obtain ⟨month_in, day_in⟩ := Date.isReal_bounds real
  have second_in : inDay % 60 + t.nanos / 1000000000 ≤ 60 := by omega
  unfold read? write
  dsimp only
  rw [String.toList_ofList, same]
  simp only [List.append_assoc, List.cons_append]
  rw [readChars_parts month_in day_in (by omega) (by omega) second_in (by omega)]
  have seconds : t.date.toDays * 86400 +
      (inDay / 3600 * 3600 + inDay / 60 % 60 * 60 + min (inDay % 60 + t.nanos / 1000000000) 59 : Nat) =
        t.seconds := by
    rw [days]
    omega
  have nanos : t.nanos % 1000000000 + (if inDay % 60 + t.nanos / 1000000000 = 60 then 1000000000 else 0) =
      t.nanos := by
    split <;> omega
  dsimp only
  rw [seconds, nanos]
  exact if_pos (Bool.and_eq_true_iff.2 ⟨real, inRange⟩)

/-! ## No other instants -/

theorem digits?_some (h : digits? width cs = some (ds, rest)) : (∀ c ∈ ds, c.isDigit = true) ∧ ds.length ≤ width := by
  unfold digits? at h
  split at h
  next => cases h
  next found _ =>
    cases h
    refine ⟨fun c member => List.mem_takeWhile_imp member, ?_⟩
    exact (List.takeWhile_sublist _).length_le.trans (List.length_take_le _ _)

theorem number?_le (h : number? width lo hi cs = some (n, rest)) : n ≤ hi := by
  simp only [number?, bind, Option.bind_eq_some_iff] at h
  obtain ⟨_, -, h⟩ := h
  split at h
  next within => cases h; exact within.2
  next => cases h

theorem fraction?_lt (h : fraction? cs = some (n, rest)) : n < 1000000000 := by
  unfold fraction? at h
  split at h
  next =>
    simp only [bind, Option.bind_eq_some_iff] at h
    obtain ⟨⟨ds, after⟩, found, h⟩ := h
    cases h
    obtain ⟨digits, length⟩ := digits?_some found
    calc valueOf ds * Nat.pow 10 (9 - ds.length)
        < 10 ^ ds.length * 10 ^ (9 - ds.length) :=
          Nat.mul_lt_mul_of_pos_right (foldl_lt digits) (Nat.pow_pos (by decide))
      _ = 1000000000 := by rw [← Nat.pow_add, Nat.add_sub_cancel' length]
  next => cases h; decide

/-- Offsets are whole minutes. -/
theorem offset?_minutes {offset : Int} (h : offset? cs = some (offset, rest)) : offset % 60 = 0 := by
  unfold offset? at h
  split at h
  next => cases h; rfl
  next => cases h; rfl
  next =>
    split at h
    next => cases h; rfl
    next =>
      simp only [bind, Option.bind_eq_some_iff] at h
      obtain ⟨⟨sign, _⟩, -, ⟨hours, _⟩, -, ⟨minutes, _⟩, -, h⟩ := h
      split at h
      next =>
        cases h
        rw [show ((hours * 3600 + minutes * 60 : Nat) : Int) = 60 * (hours * 60 + minutes) by omega,
          Int.mul_left_comm]
        exact Int.mul_emod_right 60 _
      next => cases h

theorem writable_of_read? {text : String} (h : read? text = some t) : t.Writable := by
  unfold read? readChars at h
  obtain ⟨_, -, h⟩ := Option.bind_eq_some_iff.1 h
  obtain ⟨_, -, h⟩ := Option.bind_eq_some_iff.1 h
  obtain ⟨_, -, h⟩ := Option.bind_eq_some_iff.1 h
  obtain ⟨_, -, h⟩ := Option.bind_eq_some_iff.1 h
  obtain ⟨_, -, h⟩ := Option.bind_eq_some_iff.1 h
  obtain ⟨_, -, h⟩ := Option.bind_eq_some_iff.1 h
  obtain ⟨⟨hour, _⟩, -, h⟩ := Option.bind_eq_some_iff.1 h
  obtain ⟨_, -, h⟩ := Option.bind_eq_some_iff.1 h
  obtain ⟨⟨minute, _⟩, -, h⟩ := Option.bind_eq_some_iff.1 h
  obtain ⟨_, -, h⟩ := Option.bind_eq_some_iff.1 h
  obtain ⟨⟨second, _⟩, seconds, h⟩ := Option.bind_eq_some_iff.1 h
  obtain ⟨⟨fraction, _⟩, nanos, h⟩ := Option.bind_eq_some_iff.1 h
  obtain ⟨⟨offset, _⟩, shifted, h⟩ := Option.bind_eq_some_iff.1 h
  have le := number?_le seconds
  have less := fraction?_lt nanos
  have minutes := offset?_minutes shifted
  obtain ⟨kept, h⟩ := Option.ite_none_right_eq_some.1 h
  cases h
  refine ⟨(Bool.and_eq_true_iff.1 kept).2, ?_⟩
  by_cases prolonged : second = 60
  · rw [if_pos prolonged]
    dsimp only
    omega
  · rw [if_neg prolonged]
    exact .inl less

/-- The text of an instant is read as that instant exactly if a text can be. -/
theorem read?_write_iff : read? (write t) = some t ↔ t.Writable :=
  ⟨writable_of_read?, read?_write⟩

end Rfc3339

end KeyCustody.Time
