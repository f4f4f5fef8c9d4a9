import KeyCustody.Time.Calendar

/-!
# Instants

Points in time on the UTC scale. A leap second is the second before it, prolonged: its fraction is
counted from one second up.
-/

namespace KeyCustody.Time

/-- A point in time: whole seconds since 1970-01-01T00:00:00Z, and nanoseconds within the second
(from 1000000000 up within a leap second). -/
structure Instant where
  seconds : Int
  nanos : Nat
  deriving DecidableEq, Repr

namespace Instant

instance : LT Instant where
  lt a b := a.seconds < b.seconds ∨ a.seconds = b.seconds ∧ a.nanos < b.nanos

instance (a b : Instant) : Decidable (a < b) :=
  inferInstanceAs (Decidable (a.seconds < b.seconds ∨ a.seconds = b.seconds ∧ a.nanos < b.nanos))

theorem lt_iff {a b : Instant} :
    a < b ↔ a.seconds < b.seconds ∨ a.seconds = b.seconds ∧ a.nanos < b.nanos :=
  Iff.rfl

theorem lt_irrefl (a : Instant) : ¬ a < a := by
  simp [lt_iff]

theorem lt_trans {a b c : Instant} (hab : a < b) (hbc : b < c) : a < c := by
  rw [lt_iff] at *
  omega

theorem eq_of_not_lt {a b : Instant} (hab : ¬ a < b) (hba : ¬ b < a) : a = b := by
  rw [lt_iff] at *
  cases a
  cases b
  simp_all
  omega

def date (t : Instant) : Date :=
  Date.ofDays (t.seconds.fdiv 86400)

/-- The second of its day, and the instant's day, lie in the years that can be written. -/
def inRange (t : Instant) : Bool :=
  (Date.mk (-262143) 1 1).toDays ≤ t.seconds.fdiv 86400 &&
    t.seconds.fdiv 86400 ≤ (Date.mk 262142 12 31).toDays

end Instant

end KeyCustody.Time
