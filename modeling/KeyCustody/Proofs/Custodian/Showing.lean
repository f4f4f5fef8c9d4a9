import KeyCustody.Proofs.Custodian.Request
import KeyCustody.Proofs.Lifecycle.Outcome
import KeyCustody.Proofs.Plant

/-!
# What a listing shows

A page is brought up to date record by record, and a write that fails is let go. What is then in phase
destroyed is left out, in whatever way it got there. The mark of deletion does not count: a record whose
deletion was written, and its phase was not, is shown as it stands in between.
-/

namespace KeyCustody.Custodian

open Catalog (Query)
open Lifecycle (Prepared Settlement)
open Program
open Time (Instant)

/-- A record of a page, the calls that settle the verdict on it, and the secret that comes of that. -/
structure Showing where
  record : Secret
  calls : Trace
  secret : Secret

namespace Showing

variable {caller : Caller} {row : Showing}

/-- The record was deleted, and then its phase could not be written. -/
def IsHalfWritten (caller : Caller) (row : Showing) : Prop :=
  ∃ last e, row.calls = [⟨.deleteRecord caller row.record.id, .ok last⟩,
    ⟨.changeRecord caller row.record.id ⟨.destroyed, some .generationFailed⟩, .error e⟩]

/-- What a record is shown as, or why it is not. -/
structure IsFair (caller : Caller) (row : Showing) : Prop where
  others : row.secret = { row.record with
    deleted := row.secret.deleted, phase := row.secret.phase, reason := row.secret.reason }
  leftOut : row.secret.phase = .destroyed ↔ row.record.phase = .destroyed ∨
    ∃ reason, ⟨.changeRecord caller row.record.id ⟨.destroyed, reason⟩, .ok ()⟩ ∈ row.calls
  marked : row.secret.phase ≠ .destroyed →
    (row.secret.deleted = true ↔ row.record.deleted = true ∨ row.IsHalfWritten caller)

end Showing

section
variable {caller : Caller} {s s' : Secret} {v : Verdict} {t : Trace} {x : Except Error Unit}
  {observed : Option Phase} {now : Instant}

theorem written_ne {id : String} {c c' : PhaseChange} {e : Error} :
    (⟨.changeRecord caller id c, .ok ()⟩ : Event) ≠ ⟨.changeRecord caller id c', .error e⟩ := by
  intro same
  cases same

theorem written_inj {id : String} {c c' : PhaseChange}
    (same : (⟨.changeRecord caller id c, .ok ()⟩ : Event) = ⟨.changeRecord caller id c', .ok ()⟩) : c = c' := by
  cases same
  rfl

/-- Before the phase is written, no phase is. -/
theorem not_mem_prepared {c : PhaseChange} (h : Prepared caller s v t s') :
    (⟨.changeRecord caller s.id c, .ok ()⟩ : Event) ∉ t := by
  cases h with
  | plain => exact List.not_mem_nil
  | deleted => exact fun member => nomatch List.mem_singleton.1 member

theorem leftOut_of_settlement (found : s.Finding observed now v) (h : Settlement caller s v t x s') :
    s'.phase = .destroyed ↔ s.phase = .destroyed ∨
      ∃ reason, ⟨.changeRecord caller s.id ⟨.destroyed, reason⟩, .ok ()⟩ ∈ t := by
  cases h with
  | unchanged => simp
  | undeleted changed _ e =>
    have standing := found.standing changed
    refine iff_of_false standing (not_or_intro standing ?_)
    exact fun ⟨_, member⟩ => nomatch List.mem_singleton.1 member
  | unwritten changed prepared e =>
    have standing := found.standing changed
    refine iff_of_false (prepared.own.2 ▸ standing) (not_or_intro standing ?_)
    rintro ⟨reason, member⟩
    obtain before | last := List.mem_append.1 member
    · exact not_mem_prepared prepared before
    · exact written_ne (List.mem_singleton.1 last)
  | written changed prepared =>
    rw [or_iff_right (found.standing changed)]
    constructor
    · intro destroyed
      have change : v.change = ⟨.destroyed, v.reason⟩ := congrArg (PhaseChange.mk · v.reason) destroyed
      exact ⟨v.reason, List.mem_append_right _ (change ▸ List.mem_cons_self)⟩
    · rintro ⟨reason, member⟩
      obtain before | last := List.mem_append.1 member
      · exact absurd before (not_mem_prepared prepared)
      obtain change | counted := List.mem_cons.1 last
      · exact (congrArg PhaseChange.phase (written_inj change)).symm
      · cases List.mem_singleton.1 counted

theorem marked_of_settlement (found : s.Finding observed now v) (h : Settlement caller s v t x s')
    (shown : s'.phase ≠ .destroyed) :
    s'.deleted = true ↔ s.deleted = true ∨ Showing.IsHalfWritten caller ⟨s, t, s'⟩ := by
  have lost (failed : v.generationFailed = true) : v.change = ⟨.destroyed, some .generationFailed⟩ := by
    obtain ⟨standing, reported⟩ := found.generationFailed_iff.1 failed
    rw [← Secret.finding_iff.1 found, Secret.finding_iff.1 (.lost standing reported)]
    rfl
  cases h with
  | unchanged | undeleted => simp [Showing.IsHalfWritten]
  | unwritten changed prepared e =>
    cases prepared with
    | plain => simp [Showing.IsHalfWritten]
    | deleted failed last =>
      refine iff_of_true rfl (.inr ⟨last, e, ?_⟩)
      rw [lost failed]
      rfl
  | written changed prepared =>
    cases prepared with
    | plain =>
      refine (or_iff_left ?_).symm
      rintro ⟨_, _, same⟩
      cases (List.cons.inj same).1
    | deleted failed => exact absurd (congrArg PhaseChange.phase (lost failed)) shown

theorem isFair_of_settlement (found : s.Finding observed now v) (h : Settlement caller s v t x s') :
    Showing.IsFair caller ⟨s, t, s'⟩ where
  others := h.others
  leftOut := leftOut_of_settlement found h
  marked := marked_of_settlement found h

variable {σ : Type} {w : World σ} {y y' : σ}

/-- A page that is brought up to date, record by record. -/
theorem run_settleAll_showings {pairs : List (Secret × Option Phase)} {secrets : List Secret}
    (h : Run w (pairs.mapM fun p =>
      return (← Lifecycle.settle Action.catalog Action.count caller p.1 (p.1.assess p.2 now)).2 :
      Action (List Secret)) y t secrets y') :
    ∃ rows : List Showing, rows.map (·.record) = pairs.map (·.1) ∧ rows.flatMap (·.calls) = t ∧
      rows.map (·.secret) = secrets ∧ ∀ row ∈ rows, row.IsFair caller := by
  induction pairs generalizing y t secrets with
  | nil =>
    obtain ⟨rfl, rfl, -⟩ := Run.pure_iff.1 h
    exact ⟨[], rfl, rfl, rfl, List.forall_mem_nil _⟩
  | cons p pairs ih =>
    obtain ⟨t₁, x, y₁, t₂, others, rfl, rfl, settled, remaining⟩ := Run.mapM_mapped_cons h
    obtain ⟨rows, records, rfl, rfl, fair⟩ := ih remaining
    have first := isFair_of_settlement (Secret.finding_assess p.1 p.2 now) (Lifecycle.settlement_of_run settled)
    exact ⟨⟨p.1, t₁, x.2⟩ :: rows, congrArg (p.1 :: ·) records, rfl, rfl, List.forall_mem_cons.2 ⟨first, fair⟩⟩

variable {k : Keystore Action} {q : Query}

/-- A page is shown in its order, each record as `Showing.IsFair` says, without those that are then in phase
destroyed, whatever the keystore and the catalog answer. There is an error only if nothing is listed. -/
theorem listing_leaves_out_destroyed {x : Except Error Reply}
    (h : Run w ((Action.custodian k).perform (.list caller q)) y t x y') :
    (∃ e, x = .error e ∧ ∀ page, ⟨.listRecords caller q, .ok page⟩ ∉ t) ∨
    ∃ (page : List Secret) (rest : Trace) (rows : List Showing), t = ⟨.listRecords caller q, .ok page⟩ :: rest ∧
      rows.map (·.record) = page ∧ rows.flatMap (·.calls) <:+: rest ∧
      (∀ row ∈ rows, row.IsFair caller) ∧
      x = .ok (.page ((rows.map (·.secret)).filter (·.phase ≠ .destroyed))) := by
  obtain ⟨x, rfl, counted⟩ := Run.mapped_iff.1 h
  obtain ⟨u, _, rfl, read, -⟩ := run_counted_iff.1 counted
  cases pageRead_of_run read with
  | malformed =>
    refine .inl ⟨_, rfl, fun page member => ?_⟩
    cases List.mem_singleton.1 member
  | unlisted =>
    refine .inl ⟨_, rfl, fun page member => ?_⟩
    obtain listed | counted := List.mem_cons.1 member
    · cases listed
    · cases List.mem_singleton.1 counted
  | @settled page secrets now observed t₁ t₂ _ _ _ _ listed read checked settled =>
    obtain ⟨rows, records, rfl, rfl, fair⟩ := run_settleAll_showings settled
    refine .inr ⟨page, _, rows, rfl, ?_, ?_, fair, rfl⟩
    · have same := (Run.mapM_forall₂ checked).length_eq
      rw [records, List.map_fst_zip same.le]
    · exact ⟨⟨.now, now⟩ :: t₁, [⟨.count (.operation "list" true), ()⟩], by simp [Except.isOk, Except.toBool]⟩

end

/-- The order of a secret that is listed has failed. Its record is deleted; that its phase cannot be written
is let go, and the secret is shown with the mark of its deletion. -/
theorem half_written_deletion_shown :
    let caller : Caller := ⟨⟨"s", "o"⟩, "c", none⟩
    let secret : Secret := { Secret.named "key" with id := "k" }
    let plant : Plant := ⟨.map [((caller.tenant, "k"), ⟨"k", none, some "o"⟩)], [], [("o", .failed none)],
      [((caller.tenant, "k"), secret)]⟩
    let listing := ((Action.custodian (Action.keystore 1 .barbican)).list caller ⟨10, 0⟩).run
    let ended := Action.runRefusing (Plant.answer "unknown") (.catalog "down" (some 503)) 5 listing plant
    plant.records.list caller.tenant ⟨10, 0⟩ = [secret] ∧ secret.deleted = false ∧
      Action.callAt (Plant.answer "unknown") 5 listing plant =
        some (.changeRecord caller "k" ⟨.destroyed, some .generationFailed⟩) ∧
      ended.1 = .ok [{ secret with deleted := true }] ∧
      (ended.2.records.get caller.tenant "k").map (fun s => (s.deleted, s.phase)) =
        some (true, .destroyed) := by
  decide +kernel

/-- The same beside a secret that is in use, which is shown as it is. -/
theorem listing_leaves_out_destroyed_of_two :
    let caller : Caller := ⟨⟨"s", "o"⟩, "c", none⟩
    let lost : Secret := { Secret.named "key" with id := "k" }
    let used : Secret := { lost with id := "l", phase := .activation, reason := some .keyActive }
    let others : (c : Call) → c.Answer
      | .listRecords .. => .ok [lost, used]
      | .getEntry _ id => .ok ⟨id, none, some "o"⟩
      | .checkOrder .. => .ok (.failed none)
      | .deleteRecord .. => .ok lost
      | c => Call.refused (.catalog "down" (some 503)) c
    let listing := (Action.custodian (Action.keystore 1 .barbican)).perform (.list caller ⟨10, 0⟩)
    let shown := (listing.run (fun s c => (others c, s)) ()).1
    shown = .ok (.page [{ lost with deleted := true }, used]) ∧
      ∃ rows : List Showing, rows.map (·.record) = [lost, used] ∧ (∀ row ∈ rows, row.IsFair caller) ∧
        shown = .ok (.page ((rows.map (·.secret)).filter (·.phase ≠ .destroyed))) := by
  intro caller lost used others listing shown
  let answer : Unit → (c : Call) → c.Answer × Unit := fun s c => (others c, s)
  have run : Run free listing () (listing.trace answer ()) shown () :=
    Run.of_answers (fun _ _ => trivial) listing ()
  have given : shown = .ok (.page [{ lost with deleted := true }, used]) := by decide +kernel
  refine ⟨given, ?_⟩
  obtain ⟨e, failed, -⟩ | ⟨page, rest, rows, traced, records, -, fair, same⟩ := listing_leaves_out_destroyed run
  · cases failed.symm.trans given
  · have first : (⟨.listRecords caller ⟨10, 0⟩, .ok [lost, used]⟩ : Event) = ⟨.listRecords caller ⟨10, 0⟩, .ok page⟩ :=
      (List.cons.inj traced).1
    obtain rfl : [lost, used] = page := by
      injection first with _ listed
      exact Except.ok.inj listed
    exact ⟨rows, records, fair, same⟩

end KeyCustody.Custodian
