import KeyCustody.Proofs.Custodian.Frame
import KeyCustody.Proofs.Keystore.Frame
import KeyCustody.Proofs.Trusting

/-!
# What requests on one secret call

To fetch or to destroy a secret in memory, its entry, its record and the material behind the entry are called on.
Which material that is the entry tells, and the record which identifier it is under.
-/

namespace KeyCustody

open Program
open Registry (Entry)

/-- A kind of calls among which are all those on one secret, if the answers are sound. -/
structure Handles (kind : Call → Prop) (sound : Event → Prop) (caller : Caller) (id : String) : Prop where
  entry : kind (.getEntry caller.tenant id)
  finds : ∀ e ref, sound ⟨.getEntry caller.tenant id, .ok e⟩ → e.secret? = some ref → kind (.findMaterial ref)
  drops : ∀ e ref, sound ⟨.getEntry caller.tenant id, .ok e⟩ → e.secret? = some ref → kind (.dropMaterial ref)
  removes : kind (.deleteEntry caller.tenant id)
  record : kind (.getRecord caller id)
  changes : ∀ s c, sound ⟨.getRecord caller id, .ok (some s)⟩ → kind (.changeRecord caller s.id c)
  deletes : ∀ s, sound ⟨.getRecord caller id, .ok (some s)⟩ → kind (.deleteRecord caller s.id)
  marks : kind (.deleteRecord caller id)
  now : kind .now
  counts : ∀ c, kind (.count c)

section
variable {kind : Call → Prop} {sound : Event → Prop} {tries : Nat} {caller : Caller} {id : String}

namespace Keystore.InMemory

/-- The reference that an identifier leads to is the one that its entry tells. -/
theorem trusts_behind {α : Type} {f : String → ExceptT Error Action α}
    (entry : kind (.getEntry caller.tenant id))
    (rest : ∀ e ref, sound ⟨.getEntry caller.tenant id, .ok e⟩ → e.secret? = some ref →
      (f ref).run.Keeps kind fun _ => True) :
    Trusts kind sound (reference Action.registry caller id >>= f).run := by
  have looks : Trusts kind sound (reference Action.registry caller id).run :=
    trusts_of_keeps (keeps_reference entry)
  intro _ t x _ h
  obtain ⟨_, -, asked⟩ | ⟨t₁, ref, _, t₂, rfl, named, after⟩ := Run.bindExcept_iff.1 h
  · exact looks _ _ _ _ asked
  refine trusting_append (looks _ _ _ _ named) fun told => ?_
  obtain ⟨_, e, _, _, rfl, asked, shown⟩ := Run.bindExcept_ok_iff.1 named
  obtain ⟨rfl, -⟩ := Run.ask_iff.1 asked
  have heard := told _ (List.mem_append_left _ List.mem_cons_self)
  cases name : e.secret? with
  | none =>
    simp only [name] at shown
    obtain ⟨-, refused, -⟩ := Run.throw_iff.1 shown
    cases refused
  | some _ =>
    simp only [name] at shown
    obtain ⟨-, rfl, -⟩ := Run.pureExcept_ok_iff.1 shown
    exact trusts_of_keeps (rest e _ heard name) _ _ _ _ after

theorem trusts_payload (h : Handles kind sound caller id) :
    Trusts kind sound ((Action.memoryKeystore tries).payload caller id).run :=
  trusts_behind h.entry fun e ref told name =>
    ⟨h.finds e ref told name, fun found => by cases found <;> trivial⟩

theorem trusts_check (h : Handles kind sound caller id) :
    Trusts kind sound ((Action.memoryKeystore tries).check caller id).run :=
  trusts_behind h.entry fun e ref told name =>
    ⟨h.finds e ref told name, fun found => by cases found <;> trivial⟩

theorem trusts_delete {ledger : Ledger Action} (h : Handles kind sound caller id) :
    Trusts kind sound ((Action.memoryKeystore tries).delete caller id ledger) :=
  .bind chains_trusting (trusts_behind h.entry fun e ref told name =>
    ⟨h.drops e ref told name, fun _ => ⟨h.removes, fun _ => trivial⟩⟩) fun _ => .pure chains_trusting _

end Keystore.InMemory

namespace Custodian

open Keystore.InMemory

theorem trusts_read (h : Handles kind sound caller id) :
    Trusts kind sound ((Action.custodian (Action.memoryKeystore tries)).read caller id).run := by
  intro _ t x _ run
  cases fetched_of_run run with
  | unknown | destroyed => exact ⟨h.record, fun _ => trivial⟩
  | unseen _ _ failed => exact ⟨h.record, fun _ => trusts_payload h _ _ _ _ failed⟩
  | settled _ _ seen _ settled =>
    refine ⟨h.record, fun told => trusting_append ?_ fun _ => ⟨h.now, fun _ => trusting_of_kind ?_⟩⟩
    · cases seen with
      | unasked => trivial
      | asked _ observed => exact trusts_payload h _ _ _ _ observed
    · exact (Action.keeps_settling (h.changes _ · told) (h.deletes _ told) h.counts).respects _ _ _ _ settled

theorem trusts_lastMaterial (h : Handles kind sound caller id) (left : Nat) :
    Trusts kind sound ((Action.custodian (Action.memoryKeystore tries)).lastMaterial caller id left).run := by
  induction left with
  | zero => exact .throw chains_trusting _
  | succ left ih =>
    unfold lastMaterial
    refine .bindExcept chains_trusting (trusts_payload h) fun observed => ?_
    by_cases waiting : observed.phase = .preactivation
    · rw [if_pos waiting]
      exact ih
    · rw [if_neg waiting]
      exact .pure chains_trusting _

theorem trusts_remove {whole : Bool} (h : Handles kind sound caller id) :
    Trusts kind sound ((Action.custodian (Action.memoryKeystore tries)).remove caller id whole .empty) := by
  have observes : Trusts kind sound
      ((Action.custodian (Action.memoryKeystore tries)).observeLast caller id whole).run := by
    cases whole with
    | false => exact .pure chains_trusting _
    | true => exact .bindExcept chains_trusting (trusts_lastMaterial h _) fun _ => .pure chains_trusting _
  refine .bind chains_trusting observes fun x => ?_
  cases x with
  | error _ => exact .pure chains_trusting _
  | ok observed =>
    refine .bind chains_trusting (trusts_delete h) fun p => ?_
    obtain ⟨x, l⟩ := p
    cases x with
    | error _ => exact .pure chains_trusting _
    | ok _ =>
      exact .bind chains_trusting (.ask fun _ _ _ _ => ⟨h.marks, fun _ => trivial⟩)
        fun _ => .pure chains_trusting _

end Custodian

end

end KeyCustody
