import KeyCustody.Time.Calendar
import Mathlib.Tactic.IntervalCases

/-!
# Days and dates

Every day has a date, which names it: counting days from the date leads back to the day. Days are looked at within a
cycle of 400 years, whose years begin in March, and within a year.
-/

namespace KeyCustody.Time.Date

variable {c d n q r s y : Nat} {cycle : Int}

/-- The year of a cycle that a day of the cycle lies in. -/
def yearOf (d : Nat) : Nat := (d - d / 1460 + d / 36524 - d / 146096) / 365

/-- The days of a cycle before one of its years. -/
def before (y : Nat) : Nat := 365 * y + y / 4 - y / 100

/-- A day lies in one of four centuries, one of 25 times four years, and one of four years. The last day of a leap
year is its 366th: there is none at the end of a century but the last. -/
theorem exists_parts (within : d < 146097) : ∃ c q s r, d = 36524 * c + 1461 * q + 365 * s + r ∧
    c ≤ 3 ∧ q ≤ 24 ∧ s ≤ 3 ∧ r ≤ 365 ∧ (r = 365 → s = 3 ∧ (q = 24 → c = 3)) := by
  obtain ⟨c, d₁, rfl, hc, short, full⟩ : ∃ c d₁, d = 36524 * c + d₁ ∧ c ≤ 3 ∧ d₁ ≤ 36524 ∧ (d₁ = 36524 → c = 3) :=
    ⟨min (d / 36524) 3, d - 36524 * min (d / 36524) 3, by omega, by omega, by omega, by omega⟩
  obtain ⟨q, d₂, rfl, hq, short'⟩ : ∃ q d₂, d₁ = 1461 * q + d₂ ∧ q ≤ 24 ∧ d₂ ≤ 1460 :=
    ⟨d₁ / 1461, d₁ % 1461, by omega, by omega, by omega⟩
  obtain ⟨s, r, rfl, hs, short''⟩ : ∃ s r, d₂ = 365 * s + r ∧ s ≤ 3 ∧ r ≤ 365 ∧ (r = 365 → s = 3) :=
    ⟨min (d₂ / 365) 3, d₂ - 365 * min (d₂ / 365) 3, by omega, by omega, by omega, by omega⟩
  exact ⟨c, q, s, r, by omega, hc, hq, hs, by omega, fun last => ⟨by omega, by omega⟩⟩

theorem before_parts (hq : q ≤ 24) (hs : s ≤ 3) :
    before (100 * c + 4 * q + s) = 36524 * c + 1461 * q + 365 * s := by
  unfold before
  omega

theorem yearOf_parts (hc : c ≤ 3) (hq : q ≤ 24) (hs : s ≤ 3) (hr : r ≤ 365)
    (last : r = 365 → s = 3 ∧ (q = 24 → c = 3)) :
    yearOf (36524 * c + 1461 * q + 365 * s + r) = 100 * c + 4 * q + s := by
  unfold yearOf
  generalize same : 36524 * c + 1461 * q + 365 * s + r = d
  obtain ⟨e, he, extra⟩ : ∃ e, d / 1460 = 25 * c + q + e ∧ (e = 0 ∧ r < 365 ∨ e = 1 ∧ 0 < r) := by
    by_cases long : 1460 ≤ 24 * c + q + 365 * s + r
    · exact ⟨1, by omega, by omega⟩
    · exact ⟨0, by omega, by omega⟩
  by_cases final : d = 146096
  · omega
  · have century : d / 36524 = c := by omega
    have cycle : d / 146096 = 0 := by omega
    omega

/-- A year that has a 366th day is followed by a leap year, as it begins in March. -/
theorem exists_day (within : d < 146097) : yearOf d < 400 ∧ ∃ n, d = before (yearOf d) + n ∧ n ≤ 365 ∧
    (n = 365 → (yearOf d + 1) % 4 = 0 ∧ ((yearOf d + 1) % 100 = 0 → yearOf d + 1 = 400)) := by
  obtain ⟨c, q, s, r, rfl, hc, hq, hs, hr, last⟩ := exists_parts within
  rw [yearOf_parts hc hq hs hr last, before_parts hq hs]
  exact ⟨by omega, r, rfl, hr, fun full => by omega⟩

/-! ## Dates -/

/-- The date of a day of a year of a cycle. -/
def ofParts (cycle : Int) (y n : Nat) : Date :=
  let month := (5 * n + 2) / 153
  let named := if month < 10 then month + 3 else month - 9
  ⟨cycle * 400 + y + (if named ≤ 2 then 1 else 0), named, n - (153 * month + 2) / 5 + 1⟩

theorem ofDays_eq (days : Int) : ∃ (cycle : Int) (y n : Nat), ofDays days = ofParts cycle y n ∧
    days = cycle * 146097 + (before y + n : Nat) - 719468 ∧ y < 400 ∧ n ≤ 365 ∧
    (n = 365 → (y + 1) % 4 = 0 ∧ ((y + 1) % 100 = 0 → y + 1 = 400)) := by
  have rest : (days + 719468).fmod 146097 = (days + 719468) % 146097 := Int.fmod_eq_emod_of_nonneg _ (by decide)
  have whole : (days + 719468).fdiv 146097 = (days + 719468) / 146097 := Int.fdiv_eq_ediv_of_nonneg _ (by decide)
  obtain ⟨d, hd, within⟩ : ∃ d : Nat, (days + 719468) % 146097 = d ∧ d < 146097 :=
    ⟨((days + 719468) % 146097).toNat, by omega, by omega⟩
  obtain ⟨hy, n, same, hn, last⟩ := exists_day within
  refine ⟨(days + 719468) / 146097, yearOf d, n, ?_, by omega, hy, hn, last⟩
  have unfolded : ofDays days = ofParts ((days + 719468).fdiv 146097) (yearOf ((days + 719468).fmod 146097).toNat)
      (((days + 719468).fmod 146097).toNat - before (yearOf ((days + 719468).fmod 146097).toNat)) := rfl
  rw [unfolded, rest, whole, hd, Int.toNat_natCast, show d - before (yearOf d) = n by omega]

-- From March on, five months have 153 days.
theorem month_bounds (hn : n ≤ 365) : (5 * n + 2) / 153 ≤ 11 ∧ (153 * ((5 * n + 2) / 153) + 2) / 5 ≤ n := by
  omega

theorem toDays_ofParts (hy : y < 400) (hn : n ≤ 365) :
    (ofParts cycle y n).toDays = cycle * 146097 + (before y + n : Nat) - 719468 := by
  obtain ⟨small, le⟩ := month_bounds hn
  have whole : (cycle * 400 + y).fdiv 400 = cycle := by
    rw [Int.fdiv_eq_ediv_of_nonneg _ (by decide)]
    omega
  have rest : (cycle * 400 + y).fmod 400 = y := by
    rw [Int.fmod_eq_emod_of_nonneg _ (by decide)]
    omega
  unfold ofParts toDays
  generalize (5 * n + 2) / 153 = month at small le
  by_cases early : month < 10
  · have named : ¬month + 3 ≤ 2 := by omega
    simp only [early, if_true, named, if_false, Int.add_zero, whole, rest, Int.toNat_natCast]
    unfold before
    omega
  · have named : month - 9 ≤ 2 := by omega
    simp only [early, if_false, named, if_true, Int.add_sub_cancel, whole, rest, Int.toNat_natCast]
    unfold before
    omega

theorem february_leap {year : Int} (leap : isLeapYear year = true) : daysInMonth year 2 = 29 := by
  simp [daysInMonth, leap]

theorem february_le (year : Int) : 28 ≤ daysInMonth year 2 := by
  unfold daysInMonth
  rw [if_pos rfl]
  split <;> decide

theorem isReal_ofParts (hn : n ≤ 365)
    (last : n = 365 → (y + 1) % 4 = 0 ∧ ((y + 1) % 100 = 0 → y + 1 = 400)) :
    (ofParts cycle y n).isReal = true := by
  have leap : n = 365 → isLeapYear (cycle * 400 + y + 1) = true := by
    intro full
    obtain ⟨fourth, hundredth⟩ := last full
    simp only [isLeapYear, Bool.and_eq_true, Bool.or_eq_true, decide_eq_true_eq, ne_eq, decide_not,
      Bool.not_eq_true', decide_eq_false_iff_not]
    omega
  obtain ⟨small, le⟩ := month_bounds hn
  have next : n < (153 * ((5 * n + 2) / 153 + 1) + 2) / 5 := by omega
  unfold ofParts isReal
  generalize (5 * n + 2) / 153 = month at small le next
  simp only [Bool.and_eq_true, decide_eq_true_eq]
  interval_cases month
  -- February comes last, and has a 29th day if the year has a 366th.
  case «11» =>
    refine ⟨⟨⟨by decide, by decide⟩, Nat.le_add_left 1 _⟩, ?_⟩
    by_cases full : n = 365
    · exact full ▸ Nat.le_of_eq (february_leap (leap full)).symm
    · exact Nat.le_trans (by omega) (february_le _)
  all_goals
    refine ⟨⟨⟨by decide, by decide⟩, Nat.le_add_left 1 _⟩, ?_⟩
    simp [daysInMonth]
    omega

theorem isReal_bounds {date : Date} (real : date.isReal = true) :
    (1 ≤ date.month ∧ date.month ≤ 12) ∧ 1 ≤ date.day ∧ date.day ≤ 31 := by
  simp only [isReal, Bool.and_eq_true, decide_eq_true_eq] at real
  obtain ⟨⟨⟨low, high⟩, first⟩, last⟩ := real
  refine ⟨⟨low, high⟩, first, last.trans ?_⟩
  unfold daysInMonth
  split
  · split <;> decide
  · split <;> decide

theorem toDays_ofDays (days : Int) : (ofDays days).toDays = days := by
  obtain ⟨cycle, y, n, same, rfl, hy, hn, -⟩ := ofDays_eq days
  rw [same, toDays_ofParts hy hn]

theorem isReal_ofDays (days : Int) : (ofDays days).isReal = true := by
  obtain ⟨cycle, y, n, same, -, hy, hn, last⟩ := ofDays_eq days
  rw [same, isReal_ofParts hn last]

end KeyCustody.Time.Date
