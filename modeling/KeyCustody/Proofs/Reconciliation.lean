import KeyCustody.Proofs.Keystore.Counting
import KeyCustody.Proofs.Lifecycle.Settlement

/-!
# Reconciliations

A record is brought up to date with a verdict on it. That counts the phases that it leaves and enters, once
all that there is to write is written.
-/

namespace KeyCustody

open Program
open Keystore (Even Uneventful)
open Settings (KeystoreKind)

def Call.writesRecord : Call → Bool
  | .changeRecord .. | .deleteRecord .. => true
  | _ => false

/-- A record on which there is a verdict, and the calls to settle that. -/
structure Reconciliation where
  record : Secret
  verdict : Verdict
  calls : Trace

/-- A record in one phase has been brought to another: there was a change to write, and no call failed. -/
def Reconciliation.enters (source target : Phase) (r : Reconciliation) : Bool :=
  r.record.phase = source && r.verdict.phase = target && r.verdict.changed &&
    r.calls.all fun v => !decide (v.call.Fails v.answer)

theorem Reconciliation.enters_iff {source target : Phase} {r : Reconciliation} :
    r.enters source target = true ↔ r.record.phase = source ∧ r.verdict.phase = target ∧
      r.verdict.changed = true ∧ Unfailed r.calls := by
  simp [enters, Unfailed, and_assoc]

namespace Lifecycle

variable {σ : Type} {w : World σ} {caller : Caller} {s : Secret} {v : Verdict} {y y' : σ} {t : Trace}
  {x : Except Error Unit × Secret} {source target : Phase} {kind : KeystoreKind}

/-- The calls that settle a verdict: writes, up to one that fails, or else to a count of the transition. -/
inductive Settles (s : Secret) (v : Verdict) : Trace → Prop
  | stopped {t : Trace} (writes : ∀ u ∈ t, u.call.writesRecord = true)
      (stopped : v.changed = true → ¬ Unfailed t) : Settles s v t
  | entered {t : Trace} (writes : ∀ u ∈ t, u.call.writesRecord = true) (changed : v.changed = true)
      (unfailed : Unfailed t) : Settles s v (t ++ [⟨.count (.transition s.phase v.phase), ()⟩])

theorem Prepared.writesRecord {s' : Secret} (h : Prepared caller s v t s') :
    ∀ u ∈ t, u.call.writesRecord = true := by
  cases h with
  | plain => exact List.forall_mem_nil _
  | deleted => exact List.forall_mem_singleton.2 rfl

theorem Settlement.settles {r : Except Error Unit} {s' : Secret} (h : Settlement caller s v t r s') :
    Settles s v t := by
  cases h with
  | unchanged unchanged =>
    exact .stopped (List.forall_mem_nil _) fun changed => by simp [unchanged] at changed
  | undeleted _ _ e =>
    exact .stopped (List.forall_mem_singleton.2 rfl) fun _ unfailed => unfailed _ List.mem_cons_self ⟨e, rfl⟩
  | unwritten _ prepared e =>
    refine .stopped (List.forall_mem_append.2 ⟨prepared.writesRecord, List.forall_mem_singleton.2 rfl⟩) ?_
    intro _ unfailed
    exact unfailed _ (List.mem_append_right _ List.mem_cons_self) ⟨e, rfl⟩
  | @written changed t s₁ prepared =>
    have whole : Settles s v ((t ++ [⟨.changeRecord caller s.id v.change, .ok ()⟩]) ++ [_]) :=
      .entered (List.forall_mem_append.2 ⟨prepared.writesRecord, List.forall_mem_singleton.2 rfl⟩) changed
        (unfailed_append.2 ⟨prepared.unfailed, List.forall_mem_singleton.2 nofun⟩)
    rwa [List.append_assoc] at whole

theorem settles_of_run (h : Run w (settle Action.catalog Action.count caller s v) y t x y') : Settles s v t :=
  (settlement_of_run h).settles

variable {u : Event}

theorem quiet_of_writes (writes : u.call.writesRecord = true) :
    (∀ kind, Uneventful kind u) ∧ u.givesUp = false ∧ u.counter? = none := by
  obtain ⟨call, x⟩ := u
  cases call with
  | changeRecord | deleteRecord => exact ⟨fun _ => .of_uncounted rfl rfl rfl, rfl, rfl⟩
  | _ => cases writes

theorem counts_writes (writes : ∀ u ∈ t, u.call.writesRecord = true) : counts t = [] :=
  List.filterMap_eq_nil_iff.2 fun u member => (quiet_of_writes (writes u member)).2.2

theorem Settles.even (h : Settles s v t) : Even kind t := by
  have written : ∀ {t : Trace}, (∀ u ∈ t, u.call.writesRecord = true) → Even kind t := fun writes =>
    Keystore.even_of_uneventful (fun u member => (quiet_of_writes (writes u member)).1 kind)
      fun u member => (quiet_of_writes (writes u member)).2.1
  cases h with
  | stopped writes => exact written writes
  | entered writes =>
    refine (written writes).append (Uneventful.even ⟨?_, rfl, rfl⟩ rfl)
    rintro _ ⟨⟩
    rfl

/-- Settling a verdict counts the transition, if there is one and it could be written. -/
theorem Settles.count_transition (h : Settles s v t) : (counts t).count (.transition source target) =
    if Reconciliation.enters source target ⟨s, v, t⟩ then 1 else 0 := by
  cases h with
  | stopped writes stopped =>
    have still : ¬ Reconciliation.enters source target ⟨s, v, t⟩ = true := fun enters =>
      let ⟨_, _, changed, unfailed⟩ := Reconciliation.enters_iff.1 enters
      stopped changed unfailed
    rw [counts_writes writes, if_neg still]
    rfl
  | @entered t writes changed unfailed =>
    have moves : Reconciliation.enters source target ⟨s, v, t ++ [⟨.count (.transition s.phase v.phase), ()⟩]⟩ =
        true ↔ s.phase = source ∧ v.phase = target := by
      have well : Unfailed (t ++ [⟨.count (.transition s.phase v.phase), ()⟩]) :=
        unfailed_append.2 ⟨unfailed, List.forall_mem_singleton.2 nofun⟩
      rw [Reconciliation.enters_iff]
      exact ⟨fun h => ⟨h.1, h.2.1⟩, fun h => ⟨h.1, h.2, changed, well⟩⟩
    have counted : counts [⟨.count (.transition s.phase v.phase), ()⟩] = [.transition s.phase v.phase] := rfl
    rw [if_congr moves rfl rfl, counts_append, counts_writes writes, counted, List.nil_append, List.count_singleton]
    simp

theorem Settles.counted (h : Settles s v t) : ∀ c ∈ counts t, c = .transition s.phase v.phase := by
  cases h with
  | stopped writes =>
    rw [counts_writes writes]
    exact List.forall_mem_nil _
  | entered writes =>
    rw [counts_append, counts_writes writes]
    exact List.forall_mem_singleton.2 rfl

end Lifecycle

end KeyCustody
