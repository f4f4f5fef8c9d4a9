import KeyCustody.Proofs.Lifecycle.Transitions
import Mathlib.Logic.Function.Iterate

/-!
# Repeated verdicts

What becomes of a secret on which verdict after verdict is passed, with the same report at the same time. It
comes to rest, except past its expiration date: a secret in use is deactivated then, and one that is
deactivated goes by its activation date alone.
-/

namespace KeyCustody.Secret

open Time

variable {s : Secret} {observed : Option Phase} {now : Instant} {v : Verdict} {n m : Nat}

/-- The secret after a verdict on it. -/
def step (observed : Option Phase) (now : Instant) (s : Secret) : Secret :=
  if (s.assess observed now).changed then s.enter (s.assess observed now).change else s

/-- After `n` verdicts no further one changes anything. -/
def RestsAfter (observed : Option Phase) (now : Instant) (n : Nat) (s : Secret) : Prop :=
  ∀ m, n ≤ m → (((step observed now)^[m] s).assess observed now).changed = false ∧
    (step observed now)^[m] s = (step observed now)^[n] s

/-- Every verdict is a change, and from the second state on the secret is in use and deactivated in turn. -/
def Alternates (observed : Option Phase) (now : Instant) (s : Secret) : Prop :=
  ∀ n, (((step observed now)^[n] s).assess observed now).changed = true ∧
    (((step observed now)^[n + 1] s).phase = .activation ∧ ((step observed now)^[n + 2] s).phase = .deactivated ∨
      ((step observed now)^[n + 1] s).phase = .deactivated ∧ ((step observed now)^[n + 2] s).phase = .activation)

/-- What brings a secret to rest that is past its expiration date. -/
inductive Restrained (s : Secret) (observed : Option Phase) (now : Instant) : Prop
  | early (early : ∃ t ∈ s.activation, ¬ t < now)
  | deleted (deleted : s.deleted = true)
  | lost (reported : observed = some .destroyed)
  | destroyed (destroyed : s.phase = .destroyed)
  | waiting (waits : s.phase = .preactivation) (missing : observed ≠ some .activation)

/-! ## Coming to rest -/

theorem step_of_unchanged (unchanged : (s.assess observed now).changed = false) : s.step observed now = s := by
  unfold step
  rw [unchanged]
  rfl

theorem step_of_finding (finding : s.Finding observed now v) (moves : v.phase ≠ s.phase) :
    s.step observed now = s.enter v.change := by
  unfold step
  rw [finding_iff.1 finding, finding.changed_iff.2 moves]
  rfl

theorem RestsAfter.mono (h : RestsAfter observed now n s) (later : n ≤ m) : RestsAfter observed now m s := by
  intro k after
  obtain ⟨unchanged, same⟩ := h k (Nat.le_trans later after)
  exact ⟨unchanged, same.trans (h m later).2.symm⟩

theorem restsAfter_zero (unchanged : (s.assess observed now).changed = false) :
    RestsAfter observed now 0 s := by
  intro m _
  rw [Function.iterate_fixed (step_of_unchanged unchanged) m]
  exact ⟨unchanged, rfl⟩

theorem restsAfter_of_same (finding : s.Finding observed now v) (same : v.phase = s.phase) :
    RestsAfter observed now n s := by
  have unchanged : (s.assess observed now).changed = false := by
    rw [finding_iff.1 finding]
    exact Bool.eq_false_iff.2 fun changed => finding.changed_iff.1 changed same
  exact (restsAfter_zero unchanged).mono (Nat.zero_le n)

theorem restsAfter_of_destroyed (destroyed : s.phase = .destroyed) : RestsAfter observed now n s :=
  restsAfter_of_same (.final destroyed) rfl

/-- A secret rests one verdict later than the one that the verdict on it makes of it. -/
theorem restsAfter_succ (finding : s.Finding observed now v)
    (next : RestsAfter observed now n (s.enter v.change)) : RestsAfter observed now (n + 1) s := by
  by_cases same : v.phase = s.phase
  · exact restsAfter_of_same finding same
  -- Any later state is one that follows on the first step.
  · intro m later
    obtain ⟨k, rfl⟩ := Nat.exists_eq_add_of_le' (Nat.le_trans (Nat.le_add_left 1 n) later)
    rw [Function.iterate_succ_apply, Function.iterate_succ_apply, step_of_finding finding same]
    exact next k (Nat.le_of_succ_le_succ later)

/-- Before its activation date a secret goes on waiting. -/
theorem restsAfter_of_early (unreported : observed ≠ some .destroyed) (waits : s.phase = .preactivation)
    (early : ∃ t ∈ s.activation, ¬ t < now) : RestsAfter observed now n s := by
  by_cases there : observed = some .activation
  · exact restsAfter_of_same (.early unreported (.waiting waits there) early) waits.symm
  · exact restsAfter_of_same (.waiting unreported waits there) rfl

/-- Within its dates a secret stays in use. -/
theorem restsAfter_of_inUse (unreported : observed ≠ some .destroyed) (inUse : s.phase = .activation)
    (fresh : ∀ t ∈ s.expiration, ¬ t < now) (due : ∀ t ∈ s.activation, t < now) :
    RestsAfter observed now n s :=
  restsAfter_of_same (.due unreported (.used (.inl inUse) fresh) due) inUse.symm

theorem restsAfter_of_fresh (fresh : ∀ t ∈ s.expiration, ¬ t < now) (finding : s.Finding observed now v) :
    RestsAfter observed now 1 s := by
  cases finding with
  | final destroyed => exact restsAfter_of_destroyed destroyed
  | waiting unreported waits missing => exact restsAfter_of_same (.waiting unreported waits missing) rfl
  | lost standing reported => exact restsAfter_succ (.lost standing reported) (restsAfter_of_destroyed rfl)
  | repaired unreported disused deleted =>
    exact restsAfter_succ (.repaired unreported disused deleted) (restsAfter_of_destroyed rfl)
  | lapsed _ _ late =>
    obtain ⟨t, date, late⟩ := late
    exact absurd late (fresh t date)
  | due unreported goes due =>
    exact restsAfter_succ (.due unreported goes due) (restsAfter_of_inUse unreported rfl fresh due)
  | early unreported goes early =>
    exact restsAfter_succ (.early unreported goes early) (restsAfter_of_early unreported rfl early)

/-! ## Past the expiration date -/

section
variable (unreported : observed ≠ some .destroyed) (held : (∃ t ∈ s.activation, ¬ t < now) ∨ s.deleted = true)
include unreported held

/-- Out of use, a deleted secret is destroyed, and another one goes back to waiting. -/
theorem restsAfter_of_disused (disused : s.phase = .deactivated) : RestsAfter observed now 1 s := by
  by_cases deleted : s.deleted = true
  · exact restsAfter_succ (.repaired unreported disused deleted) (restsAfter_of_destroyed rfl)
  · have early := held.resolve_right deleted
    have kept : s.deleted = false := Bool.eq_false_iff.2 deleted
    exact restsAfter_succ (.early unreported (.disused disused kept) early)
      (restsAfter_of_early unreported rfl early)

theorem restsAfter_of_used (late : ∃ t ∈ s.expiration, t < now)
    (used : s.phase = .activation ∨ s.phase = .suspended) : RestsAfter observed now 2 s :=
  restsAfter_succ (.lapsed unreported used late) (restsAfter_of_disused unreported held rfl)

theorem restsAfter_of_waiting (late : ∃ t ∈ s.expiration, t < now) (waits : s.phase = .preactivation)
    (there : observed = some .activation) : RestsAfter observed now 3 s := by
  by_cases due : s.isDue now = true
  · exact restsAfter_succ (.due unreported (.waiting waits there) (isDue_iff.1 due))
      (restsAfter_of_used unreported held late (.inl rfl))
  · exact restsAfter_of_early unreported waits (not_isDue_iff.1 due)

end

theorem Restrained.held (h : s.Restrained observed now) (unreported : observed ≠ some .destroyed)
    (standing : s.phase ≠ .destroyed) (there : s.phase = .preactivation → observed = some .activation) :
    (∃ t ∈ s.activation, ¬ t < now) ∨ s.deleted = true := by
  cases h with
  | early early => exact .inl early
  | deleted deleted => exact .inr deleted
  | lost reported => exact absurd reported unreported
  | destroyed destroyed => exact absurd destroyed standing
  | waiting waits missing => exact absurd (there waits) missing

theorem restsAfter_of_restrained (late : ∃ t ∈ s.expiration, t < now) (restrained : s.Restrained observed now) :
    RestsAfter observed now 3 s := by
  by_cases destroyed : s.phase = .destroyed
  · exact restsAfter_of_destroyed destroyed
  by_cases reported : observed = some .destroyed
  · exact restsAfter_succ (.lost destroyed reported) (restsAfter_of_destroyed rfl)
  by_cases there : s.phase = .preactivation → observed = some .activation
  · have held := restrained.held reported destroyed there
    cases phase : s.phase with
    | preactivation => exact restsAfter_of_waiting reported held late phase (there phase)
    | activation => exact (restsAfter_of_used reported held late (.inl phase)).mono (by decide)
    | suspended => exact (restsAfter_of_used reported held late (.inr phase)).mono (by decide)
    | deactivated => exact (restsAfter_of_disused reported held phase).mono (by decide)
    | destroyed => exact absurd phase destroyed
  · obtain ⟨waits, missing⟩ := Classical.not_imp.1 there
    exact restsAfter_of_same (.waiting reported waits missing) rfl

/-! ## Never coming to rest -/

/-- A secret past its expiration date that nothing restrains. -/
structure Adrift (s : Secret) (observed : Option Phase) (now : Instant) : Prop where
  unreported : observed ≠ some .destroyed
  standing : s.phase ≠ .destroyed
  kept : s.deleted = false
  late : ∃ t ∈ s.expiration, t < now
  due : ∀ t ∈ s.activation, t < now
  there : s.phase = .preactivation → observed = some .activation

theorem adrift_of_unrestrained (late : ∃ t ∈ s.expiration, t < now) (free : ¬ s.Restrained observed now) :
    s.Adrift observed now where
  unreported reported := free (.lost reported)
  standing destroyed := free (.destroyed destroyed)
  kept := Bool.eq_false_iff.2 fun deleted => free (.deleted deleted)
  late := late
  due := isDue_iff.1 (Decidable.not_not.1 fun early => free (.early (not_isDue_iff.1 early)))
  there waits := Decidable.not_not.1 fun missing => free (.waiting waits missing)

theorem Adrift.enter {c : PhaseChange} (h : s.Adrift observed now)
    (turns : c.phase = .activation ∨ c.phase = .deactivated) : (s.enter c).Adrift observed now where
  unreported := h.unreported
  standing destroyed := by
    have gone : c.phase = .destroyed := destroyed
    simp [gone] at turns
  kept := h.kept
  late := h.late
  due := h.due
  there waits := by
    have back : c.phase = .preactivation := waits
    simp [back] at turns

/-- A secret adrift is deactivated if it is used, and else activated. -/
theorem Adrift.finding (h : s.Adrift observed now) :
    ∃ v, s.Finding observed now v ∧ v.phase ≠ s.phase ∧
      (v.phase = .deactivated ∧ (s.phase = .activation ∨ s.phase = .suspended) ∨
        v.phase = .activation ∧ (s.phase = .preactivation ∨ s.phase = .deactivated)) := by
  cases phase : s.phase with
  | activation =>
    exact ⟨_, .lapsed h.unreported (.inl phase) h.late, nofun, .inl ⟨rfl, .inl rfl⟩⟩
  | suspended =>
    exact ⟨_, .lapsed h.unreported (.inr phase) h.late, nofun, .inl ⟨rfl, .inr rfl⟩⟩
  | preactivation =>
    have goes : s.GoesByDate observed now := .waiting phase (h.there phase)
    exact ⟨_, .due h.unreported goes h.due, nofun, .inr ⟨rfl, .inl rfl⟩⟩
  | deactivated =>
    have goes : s.GoesByDate observed now := .disused phase h.kept
    exact ⟨_, .due h.unreported goes h.due, nofun, .inr ⟨rfl, .inr rfl⟩⟩
  | destroyed => exact absurd phase h.standing

/-- The verdict on a secret adrift is a change, and leaves it adrift. -/
theorem Adrift.turn (h : s.Adrift observed now) :
    (s.assess observed now).changed = true ∧ (s.step observed now).Adrift observed now ∧
      ((s.step observed now).phase = .deactivated ∧ (s.phase = .activation ∨ s.phase = .suspended) ∨
        (s.step observed now).phase = .activation ∧ (s.phase = .preactivation ∨ s.phase = .deactivated)) := by
  obtain ⟨v, finding, moves, turns⟩ := h.finding
  have changed : (s.assess observed now).changed = true := by
    rw [finding_iff.1 finding]
    exact finding.changed_iff.2 moves
  rw [step_of_finding finding moves]
  have adrift : (s.enter v.change).Adrift observed now :=
    h.enter (turns.elim (fun lapsed => .inr lapsed.1) fun due => .inl due.1)
  exact ⟨changed, adrift, turns⟩

theorem Adrift.iterate (h : s.Adrift observed now) (n : Nat) : ((step observed now)^[n] s).Adrift observed now := by
  induction n with
  | zero => exact h
  | succ n ih =>
    rw [Function.iterate_succ_apply']
    exact ih.turn.2.1

theorem Adrift.alternates (h : s.Adrift observed now) : Alternates observed now s := by
  intro n
  have here := h.iterate n
  have next := here.turn.2.1.turn.2.2
  refine ⟨here.turn.1, ?_⟩
  rw [Function.iterate_succ_apply', Function.iterate_succ_apply', Function.iterate_succ_apply']
  obtain ⟨phase, -⟩ | ⟨phase, -⟩ := here.turn.2.2
  · refine .inr ⟨phase, ?_⟩
    rw [phase] at next
    exact (next.resolve_left (by simp)).1
  · refine .inl ⟨phase, ?_⟩
    rw [phase] at next
    exact (next.resolve_right (by simp)).1

/-! ## Convergence -/

/-- Before its expiration date a secret rests after one verdict, and past it after three if something
restrains it; else it never does. -/
theorem rests_unless_adrift (s : Secret) (observed : Option Phase) (now : Instant) :
    ((∀ t ∈ s.expiration, ¬ t < now) → RestsAfter observed now 1 s) ∧
      ((∃ t ∈ s.expiration, t < now) → s.Restrained observed now → RestsAfter observed now 3 s) ∧
      ((∃ t ∈ s.expiration, t < now) → ¬ s.Restrained observed now → Alternates observed now s) := by
  refine ⟨fun fresh => ?_, fun late restrained => ?_, fun late free => ?_⟩
  · exact restsAfter_of_fresh fresh (finding_assess s observed now)
  · exact restsAfter_of_restrained late restrained
  · exact (adrift_of_unrestrained late free).alternates

/-- One secret suspended within its dates, one that is deleted before its material is there, and one that has
expired. -/
theorem rests_unless_adrift_of_three :
    let now : Instant := ⟨100, 0⟩
    let suspended : Secret := { named "key" with phase := .suspended, expiration := some ⟨200, 0⟩ }
    let deleted : Secret := { named "key" with deleted := true, expiration := some ⟨50, 0⟩ }
    let expired : Secret := { named "key" with phase := .activation, expiration := some ⟨50, 0⟩ }
    RestsAfter none now 1 suspended ∧
      (deleted.Restrained (some .activation) now ∧ RestsAfter (some .activation) now 3 deleted) ∧
      ¬ expired.Restrained none now ∧ Alternates none now expired := by
  intro now suspended deleted expired
  have fresh : ∀ t ∈ suspended.expiration, ¬ t < now := not_isExpired_iff.1 (by decide)
  have late : ∃ t ∈ deleted.expiration, t < now := isExpired_iff.1 (by decide)
  have restrained : deleted.Restrained (some .activation) now := .deleted rfl
  have passed : ∃ t ∈ expired.expiration, t < now := isExpired_iff.1 (by decide)
  have free : ¬ expired.Restrained none now := by
    intro restrained
    cases restrained with
    | early early => simp [expired, named] at early
    | deleted deleted => cases deleted
    | lost reported => cases reported
    | destroyed destroyed => cases destroyed
    | waiting waits => cases waits
  exact ⟨(rests_unless_adrift suspended none now).1 fresh,
    ⟨restrained, (rests_unless_adrift deleted (some .activation) now).2.1 late restrained⟩,
    free, (rests_unless_adrift expired none now).2.2 passed free⟩

end KeyCustody.Secret
