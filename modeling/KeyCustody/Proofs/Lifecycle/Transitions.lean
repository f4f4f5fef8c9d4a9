import KeyCustody.Lifecycle
import Mathlib.Tactic.SplitIfs

/-!
# Transitions

The rules that a verdict goes by, as a relation, and what follows from them: which phase a secret may leave
for which other, when, and for what reason.
-/

namespace KeyCustody.Secret

open Time

variable {s : Secret} {observed : Option Phase} {now : Instant} {v : Verdict}

/-! ## Dates -/

theorem isExpired_iff : s.isExpired now = true ↔ ∃ t ∈ s.expiration, t < now := by
  unfold isExpired
  cases s.expiration with
  | none => simp
  | some t => simp

theorem not_isExpired_iff : ¬ s.isExpired now = true ↔ ∀ t ∈ s.expiration, ¬ t < now := by
  rw [isExpired_iff]
  exact ⟨fun h t date late => h ⟨t, date, late⟩, fun h ⟨t, date, late⟩ => h t date late⟩

theorem isDue_iff : s.isDue now = true ↔ ∀ t ∈ s.activation, t < now := by
  unfold isDue
  cases s.activation with
  | none => simp
  | some t => simp

theorem not_isDue_iff : ¬ s.isDue now = true ↔ ∃ t ∈ s.activation, ¬ t < now := by
  unfold isDue
  cases s.activation with
  | none => simp
  | some t => simp

/-! ## The rules -/

theorem mayExpire_iff {p : Phase} : p.mayExpire = true ↔ p = .activation ∨ p = .suspended := by
  cases p <;> decide

/-- A secret about which its activation date decides: it waits for material that is there, is used within
its dates, or is out of use without being deleted. -/
inductive GoesByDate (s : Secret) (observed : Option Phase) (now : Instant) : Prop
  | waiting (waits : s.phase = .preactivation) (there : observed = some .activation)
  | used (used : s.phase = .activation ∨ s.phase = .suspended) (fresh : ∀ t ∈ s.expiration, ¬ t < now)
  | disused (disused : s.phase = .deactivated) (kept : s.deleted = false)

theorem GoesByDate.there (h : s.GoesByDate observed now) (waits : s.phase = .preactivation) :
    observed = some .activation := by
  cases h with
  | waiting _ there => exact there
  | used used => simp [waits] at used
  | disused disused => simp [waits] at disused

/-- What there is to find about a secret, each with the verdict that goes with it. -/
inductive Finding (s : Secret) (observed : Option Phase) (now : Instant) : Verdict → Prop
  | final (destroyed : s.phase = .destroyed) : Finding s observed now (.asIs s)
  | lost (standing : s.phase ≠ .destroyed) (reported : observed = some .destroyed) :
      Finding s observed now ⟨.destroyed, some .generationFailed, true, true⟩
  | repaired (unreported : observed ≠ some .destroyed) (disused : s.phase = .deactivated)
      (deleted : s.deleted = true) : Finding s observed now (.enter s .destroyed s.reason)
  | waiting (unreported : observed ≠ some .destroyed) (waits : s.phase = .preactivation)
      (missing : observed ≠ some .activation) : Finding s observed now (.asIs s)
  | lapsed (unreported : observed ≠ some .destroyed) (used : s.phase = .activation ∨ s.phase = .suspended)
      (late : ∃ t ∈ s.expiration, t < now) : Finding s observed now (.enter s .deactivated (some .expired))
  | due (unreported : observed ≠ some .destroyed) (goes : s.GoesByDate observed now)
      (due : ∀ t ∈ s.activation, t < now) : Finding s observed now (.enter s .activation (some .keyActive))
  | early (unreported : observed ≠ some .destroyed) (goes : s.GoesByDate observed now)
      (early : ∃ t ∈ s.activation, ¬ t < now) : Finding s observed now (.enter s .preactivation none)

theorem finding_byDate (unreported : observed ≠ some .destroyed) (goes : s.GoesByDate observed now) :
    s.Finding observed now (s.assessByDate now) := by
  unfold assessByDate
  by_cases due : s.isDue now = true
  · rw [if_pos due]
    exact .due unreported goes (isDue_iff.1 due)
  · rw [if_neg due]
    exact .early unreported goes (not_isDue_iff.1 due)

theorem finding_assess (s : Secret) (observed : Option Phase) (now : Instant) :
    s.Finding observed now (s.assess observed now) := by
  unfold assess
  split_ifs with destroyed reported repaired waits lapsed
  · exact .final destroyed
  · exact .lost destroyed reported
  · exact .repaired reported repaired.2 repaired.1
  · exact .waiting reported waits.1 waits.2
  · exact .lapsed reported (mayExpire_iff.1 lapsed.1) (isExpired_iff.1 lapsed.2)
  -- What is left goes by its activation date, in each phase for a reason of its own.
  · refine finding_byDate reported ?_
    have fresh (used : s.phase = .activation ∨ s.phase = .suspended) : s.GoesByDate observed now :=
      .used used (not_isExpired_iff.1 fun late => lapsed ⟨mayExpire_iff.2 used, late⟩)
    cases phase : s.phase with
    | preactivation => exact .waiting phase (Decidable.not_not.1 fun missing => waits ⟨phase, missing⟩)
    | activation => exact fresh (.inl phase)
    | suspended => exact fresh (.inr phase)
    | deactivated => exact .disused phase (Bool.eq_false_iff.2 fun deleted => repaired ⟨deleted, phase⟩)
    | destroyed => exact absurd phase destroyed

theorem assess_byDate (unreported : observed ≠ some .destroyed) (goes : s.GoesByDate observed now) :
    s.assess observed now = s.assessByDate now := by
  unfold assess
  cases goes with
  | waiting waits there => simp [waits, there, Phase.mayExpire]
  | used used fresh =>
    obtain used | used := used
    · simp [used, unreported, not_isExpired_iff.2 fresh]
    · simp [used, unreported, not_isExpired_iff.2 fresh]
  | disused disused kept => simp [disused, kept, unreported, Phase.mayExpire]

/-- The rules leave no choice: what there is to find is found. -/
theorem finding_iff : s.Finding observed now v ↔ s.assess observed now = v := by
  constructor
  · intro finding
    cases finding with
    | final destroyed => simp [assess, destroyed]
    | lost standing reported => simp [assess, standing, reported]
    | repaired unreported disused deleted => simp [assess, disused, deleted, unreported]
    | waiting unreported waits missing => simp [assess, waits, missing, unreported]
    | lapsed unreported used late =>
      obtain used | used := used
      · simp [assess, used, unreported, isExpired_iff.2 late, Phase.mayExpire]
      · simp [assess, used, unreported, isExpired_iff.2 late, Phase.mayExpire]
    | due unreported goes due =>
      rw [assess_byDate unreported goes, assessByDate, if_pos (isDue_iff.2 due)]
    | early unreported goes early =>
      rw [assess_byDate unreported goes, assessByDate, if_neg (not_isDue_iff.2 early)]
  · rintro rfl
    exact finding_assess s observed now

/-! ## What is entered and what is left -/

namespace Finding

variable (h : s.Finding observed now v)
include h

theorem generationFailed_iff : v.generationFailed = true ↔ s.phase ≠ .destroyed ∧ observed = some .destroyed := by
  cases h with
  | final destroyed => simp [Verdict.asIs, destroyed]
  | lost standing reported => simp [standing, reported]
  | waiting unreported => simp [Verdict.asIs, unreported]
  | repaired unreported | lapsed unreported | due unreported | early unreported =>
    simp [Verdict.enter, unreported]

theorem changed_iff : v.changed = true ↔ v.phase ≠ s.phase := by
  cases h with
  | final | waiting => simp [Verdict.asIs]
  | lost standing => simp [Ne.symm standing]
  | repaired | lapsed | due | early => simp [Verdict.enter]

/-- A verdict that is a change is on a secret that stands. -/
theorem standing (changed : v.changed = true) : s.phase ≠ .destroyed := by
  intro destroyed
  obtain rfl := (finding_iff.1 h).symm.trans (finding_iff.1 (.final destroyed))
  cases changed

theorem of_destroyed (entered : v.phase = .destroyed) (standing : s.phase ≠ .destroyed)
    (unfailed : v.generationFailed = false) :
    s.deleted = true ∧ s.phase = .deactivated ∧ v.reason = s.reason := by
  cases h with
  | final | waiting => exact absurd entered standing
  | lost => cases unfailed
  | repaired _ disused deleted => exact ⟨deleted, disused, rfl⟩
  | lapsed | due | early => cases entered

theorem of_deactivated (entered : v.phase = .deactivated) (inUse : s.phase ≠ .deactivated) :
    (s.phase = .activation ∨ s.phase = .suspended) ∧ (∃ t ∈ s.expiration, t < now) ∧
      v.reason = some .expired := by
  cases h with
  | final | waiting => exact absurd entered inUse
  | lapsed _ used late => exact ⟨used, late, rfl⟩
  | lost | repaired | due | early => cases entered

theorem of_activation (entered : v.phase = .activation) (inactive : s.phase ≠ .activation) :
    (∀ t ∈ s.activation, t < now) ∧ v.reason = some .keyActive := by
  cases h with
  | final | waiting => exact absurd entered inactive
  | due _ _ due => exact ⟨due, rfl⟩
  | lost | repaired | lapsed | early => cases entered

theorem of_preactivation (entered : v.phase = .preactivation) (ready : s.phase ≠ .preactivation) :
    (∃ t ∈ s.activation, ¬ t < now) ∧ v.reason = none := by
  cases h with
  | final | waiting => exact absurd entered ready
  | early _ _ early => exact ⟨early, rfl⟩
  | lost | repaired | lapsed | due => cases entered

theorem reported_of_left (waits : s.phase = .preactivation) (left : v.phase ≠ .preactivation) :
    observed = some .activation ∨ observed = some .destroyed := by
  cases h with
  | final | waiting => exact absurd waits left
  | lost _ reported => exact .inr reported
  | repaired _ disused => simp [waits] at disused
  | lapsed _ used => simp [waits] at used
  | due _ goes | early _ goes => exact .inl (goes.there waits)

theorem of_suspended (suspended : v.phase = .suspended) : s.phase = .suspended := by
  cases h with
  | final | waiting => exact suspended
  | lost | repaired | lapsed | due | early => cases suspended

end Finding

/-- The transitions that a verdict may make, and that it makes them where the rules say so. -/
structure Documented (s : Secret) (observed : Option Phase) (now : Instant) (v : Verdict) : Prop where
  final : s.phase = .destroyed → v = .asIs s
  lost : s.phase ≠ .destroyed → (v.generationFailed = true ↔ observed = some .destroyed)
  lostFor : s.phase ≠ .destroyed → v.generationFailed = true →
    v.change = ⟨.destroyed, some .generationFailed⟩
  changed : v.changed = true ↔ v.phase ≠ s.phase
  destroyed : v.phase = .destroyed → s.phase ≠ .destroyed → v.generationFailed = false →
    s.deleted = true ∧ s.phase = .deactivated ∧ v.reason = s.reason
  deactivated : v.phase = .deactivated → s.phase ≠ .deactivated →
    (s.phase = .activation ∨ s.phase = .suspended) ∧ (∃ t ∈ s.expiration, t < now) ∧
      v.reason = some .expired
  activated : v.phase = .activation → s.phase ≠ .activation →
    (∀ t ∈ s.activation, t < now) ∧ v.reason = some .keyActive
  deferred : v.phase = .preactivation → s.phase ≠ .preactivation →
    (∃ t ∈ s.activation, ¬ t < now) ∧ v.reason = none
  left : s.phase = .preactivation → v.phase ≠ .preactivation →
    observed = some .activation ∨ observed = some .destroyed
  suspended : v.phase = .suspended → s.phase = .suspended
  /-- The rules leave no choice. -/
  rules : ∀ w, s.Finding observed now w ↔ v = w

theorem documented_assess (s : Secret) (observed : Option Phase) (now : Instant) :
    s.Documented observed now (s.assess observed now) := by
  have found := finding_assess s observed now
  exact {
    final := fun destroyed => finding_iff.1 (.final destroyed)
    lost := fun standing => found.generationFailed_iff.trans (and_iff_right standing)
    lostFor := fun standing failed => by
      have reported := (found.generationFailed_iff.1 failed).2
      rw [finding_iff.1 (.lost standing reported)]
      rfl
    changed := found.changed_iff
    destroyed := found.of_destroyed
    deactivated := found.of_deactivated
    activated := found.of_activation
    deferred := found.of_preactivation
    left := found.reported_of_left
    suspended := found.of_suspended
    rules := fun _ => finding_iff }

end KeyCustody.Secret
