import KeyCustody.Proofs.Counting
import KeyCustody.Proofs.Custodian.Settling
import KeyCustody.Proofs.Lifecycle.Settlement
import KeyCustody.Proofs.Lifecycle.Transitions
import KeyCustody.Proofs.Path
import KeyCustody.Proofs.SingleFault

/-!
# What settling a verdict leaves

Two writes without a transaction between them: each may fail, and the secret that is returned has to say
what has been written up to there. It does as far as its phase and its mark of deletion go, and the record
follows it where the catalog keeps its records.
-/

namespace KeyCustody

open Program
open Catalog (Records)
open Time (Instant)

namespace Lifecycle

variable {caller : Caller} {s s' : Secret} {v : Verdict} {t : Trace} {x : Except Error Unit}

/-- The writes of a verdict, each with its answer. A deletion that fails is the last of them. -/
inductive Writes (caller : Caller) (s : Secret) (v : Verdict) : Trace → Prop
  | entered (well : v.generationFailed = false) (x : Except Error Unit) :
      Writes caller s v [⟨.changeRecord caller s.id v.change, x⟩]
  | deleted (failed : v.generationFailed = true) (last : Secret) (x : Except Error Unit) :
      Writes caller s v [⟨.deleteRecord caller s.id, .ok last⟩, ⟨.changeRecord caller s.id v.change, x⟩]
  | undeleted (failed : v.generationFailed = true) (e : Error) :
      Writes caller s v [⟨.deleteRecord caller s.id, .error e⟩]

/-- What a verdict leaves: its calls, what is returned, and the secret as it then stands. -/
structure Outcome (caller : Caller) (s : Secret) (v : Verdict) (t : Trace) (x : Except Error Unit)
    (s' : Secret) : Prop where
  idle : v.changed = false → t = [] ∧ x = .ok () ∧ s' = s
  /-- Nothing else is called than the writes and counts. -/
  writes : v.changed = true → Writes caller s v (t.filter (·.counter?.isNone))
  told : x.isOk = true ↔ Unfailed t
  entered : v.changed = true → (x.isOk = true ↔ s'.phase = v.phase ∧ s'.reason = v.reason)
  counted : counts t = if v.changed && x.isOk then [.transition s.phase v.phase] else []
  kept : x.isOk = false → s'.phase = s.phase ∧ s'.reason = s.reason
  marked : s'.deleted = true ↔ s.deleted = true ∨ ∃ last, ⟨.deleteRecord caller s.id, .ok last⟩ ∈ t
  others : s' = { s with deleted := s'.deleted, phase := s'.phase, reason := s'.reason }

namespace Prepared

variable (h : Prepared caller s v t s')
include h

theorem reason : s'.reason = s.reason := by
  cases h with
  | plain | deleted => rfl

theorem counts : counts t = [] := by
  cases h with
  | plain | deleted => rfl

theorem writes (x : Except Error Unit) :
    Writes caller s v (t.filter (·.counter?.isNone) ++ [⟨.changeRecord caller s.id v.change, x⟩]) := by
  cases h with
  | plain well => exact .entered well x
  | deleted failed last => exact .deleted failed last x

theorem marked {rest : Trace} (others : ∀ u ∈ rest, u.call ≠ .deleteRecord caller s.id) :
    s'.deleted = true ↔ s.deleted = true ∨ ∃ last, ⟨.deleteRecord caller s.id, .ok last⟩ ∈ t ++ rest := by
  cases h with
  | plain =>
    have none : ¬ ∃ last, ⟨.deleteRecord caller s.id, .ok last⟩ ∈ rest := fun ⟨_, member⟩ =>
      others _ member rfl
    exact (or_iff_left none).symm
  | deleted _ last => exact iff_of_true rfl (.inr ⟨last, List.mem_cons_self⟩)

theorem others : s' = { s with deleted := s'.deleted } := by
  cases h with
  | plain | deleted => rfl

end Prepared

namespace Settlement

variable (h : Settlement caller s v t x s')
include h

theorem idle (unchanged : v.changed = false) : t = [] ∧ x = .ok () ∧ s' = s := by
  cases h with
  | unchanged => exact ⟨rfl, rfl, rfl⟩
  | undeleted changed | unwritten changed | written changed => simp [unchanged] at changed

theorem writes (changed : v.changed = true) : Writes caller s v (t.filter (·.counter?.isNone)) := by
  cases h with
  | unchanged unchanged => simp [changed] at unchanged
  | undeleted _ failed e => exact .undeleted failed e
  | unwritten _ prepared e =>
    rw [List.filter_append]
    exact prepared.writes (.error e)
  | written _ prepared =>
    rw [List.filter_append]
    exact prepared.writes (.ok ())

theorem told : x.isOk = true ↔ Unfailed t := by
  cases h with
  | unchanged => exact iff_of_true rfl (List.forall_mem_nil _)
  | undeleted _ _ e =>
    exact iff_of_false nofun fun unfailed => unfailed _ (List.mem_singleton_self _) ⟨e, rfl⟩
  | unwritten _ _ e =>
    exact iff_of_false nofun fun unfailed =>
      unfailed _ (List.mem_append_right _ (List.mem_singleton_self _)) ⟨e, rfl⟩
  | written _ prepared =>
    have last : ∀ u ∈ [(⟨.changeRecord caller s.id v.change, .ok ()⟩ : Event),
        ⟨.count (.transition s.phase v.phase), ()⟩], ¬ u.call.Fails u.answer :=
      List.forall_mem_cons.2 ⟨nofun, List.forall_mem_singleton.2 nofun⟩
    exact iff_of_true rfl (unfailed_append.2 ⟨prepared.unfailed, last⟩)

theorem kept (failed : x.isOk = false) : s'.phase = s.phase ∧ s'.reason = s.reason := by
  cases h with
  | unchanged | undeleted => exact ⟨rfl, rfl⟩
  | unwritten _ prepared => exact ⟨prepared.own.2, prepared.reason⟩
  | written => cases failed

theorem entered (changed : v.changed = true) (moves : v.phase ≠ s.phase) :
    x.isOk = true ↔ s'.phase = v.phase ∧ s'.reason = v.reason := by
  cases h with
  | unchanged unchanged => simp [changed] at unchanged
  | undeleted => exact iff_of_false nofun fun same => moves same.1.symm
  | unwritten _ prepared => exact iff_of_false nofun fun same => moves (same.1.symm.trans prepared.own.2)
  | written => exact iff_of_true rfl ⟨rfl, rfl⟩

theorem counted : counts t = if v.changed && x.isOk then [.transition s.phase v.phase] else [] := by
  cases h with
  | unchanged unchanged => simp [unchanged]
  | undeleted changed =>
    rw [changed]
    rfl
  | unwritten changed prepared =>
    rw [counts_append, prepared.counts, changed]
    rfl
  | written changed prepared =>
    rw [counts_append, prepared.counts, changed]
    rfl

theorem marked : s'.deleted = true ↔ s.deleted = true ∨ ∃ last, ⟨.deleteRecord caller s.id, .ok last⟩ ∈ t := by
  cases h with
  | unchanged => simp
  | undeleted _ _ e =>
    have none : ¬ ∃ last, (⟨.deleteRecord caller s.id, .ok last⟩ : Event) ∈
        [⟨.deleteRecord caller s.id, .error e⟩] := fun ⟨_, member⟩ => nomatch List.mem_singleton.1 member
    exact (or_iff_left none).symm
  | unwritten _ prepared => exact prepared.marked (List.forall_mem_singleton.2 nofun)
  | written _ prepared =>
    exact prepared.marked (List.forall_mem_cons.2 ⟨nofun, List.forall_mem_singleton.2 nofun⟩)

theorem others : s' = { s with deleted := s'.deleted, phase := s'.phase, reason := s'.reason } := by
  cases h with
  | unchanged | undeleted => rfl
  | unwritten _ prepared =>
    rw [prepared.own.2, prepared.reason]
    exact prepared.others
  | written _ prepared =>
    rw [prepared.others]
    rfl

theorem outcome (moves : v.changed = true → v.phase ≠ s.phase) : Outcome caller s v t x s' where
  idle := h.idle
  writes := h.writes
  told := h.told
  entered changed := h.entered changed (moves changed)
  counted := h.counted
  kept := h.kept
  marked := h.marked
  others := h.others

end Settlement

end Lifecycle

namespace Catalog.Records

variable {r r' : Records} {tenant : Tenant} {id : String}

theorem change_ok {c : PhaseChange} (h : r.change tenant id c = (.ok (), r')) :
    ∃ s, r.lookup (tenant, id) = some s ∧ r' = r.put (tenant, id) (s.enter c) := by
  unfold Records.change at h
  cases found : r.lookup (tenant, id) with
  | none =>
    rw [found] at h
    cases h
  | some s =>
    rw [found] at h
    exact ⟨s, rfl, (Prod.mk.inj h).2.symm⟩

theorem delete_ok {last : Secret} (h : r.delete tenant id = (.ok last, r')) :
    ∃ s, r.lookup (tenant, id) = some s ∧
      r' = r.put (tenant, id) { s with deleted := true, phase := .destroyed } := by
  unfold Records.delete at h
  cases found : r.lookup (tenant, id) with
  | none =>
    rw [found] at h
    cases h
  | some s =>
    rw [found] at h
    exact ⟨s, rfl, (Prod.mk.inj h).2.symm⟩

end Catalog.Records

namespace Lifecycle

variable {caller : Caller} {s s' : Secret} {v : Verdict} {t : Trace} {f : Fault} {r r' : Records}

theorem Settlement.stored (h : Settlement caller s v t (.ok ()) s') (changed : v.changed = true)
    (path : Path (Records.world f) r t r') : ∃ record, r.lookup (caller.tenant, s.id) = some record ∧
      r' = r.put (caller.tenant, s.id) (record.settledTo v) := by
  cases h with
  | unchanged unchanged => simp [changed] at unchanged
  | written _ prepared =>
    obtain ⟨r₁, before, admitted⟩ := path_written path
    obtain ⟨last, stands, rfl⟩ := Records.change_ok admitted.ok
    cases prepared with
    | plain well =>
      cases before
      exact ⟨last, stands, by simp [Secret.settledTo, changed, well]⟩
    | deleted failed =>
      obtain ⟨_, answered, path⟩ := Path.cons_iff.1 before
      cases path
      have admitted : f.Admits (r.delete caller.tenant s.id) r (.ok _) r₁ := answered
      obtain ⟨record, found, rfl⟩ := Records.delete_ok admitted.ok
      obtain rfl := Option.some.inj (Keyed.lookup_put_self.symm.trans stands)
      refine ⟨record, found, ?_⟩
      rw [Records.put_put]
      simp [Secret.settledTo, changed, failed, Secret.enter, Verdict.change]

/-- Whatever a catalog answers, settling a verdict on a secret leaves its calls, what is returned and the
secret as one another say: see `Outcome`. Where records are kept in memory, and may fail, a change that is
settled is the change of the record, with its mark of deletion if there will be no material. -/
theorem settling_leaves_what_was_written (caller : Caller) (s : Secret) (observed : Option Phase) (now : Instant) :
    (∀ (σ : Type) (w : World σ) (y : σ) (t : Trace) (x : Except Error Unit) (s' : Secret) (y' : σ),
      Run w (settle Action.catalog Action.count caller s (s.assess observed now)) y t (x, s') y' →
        Outcome caller s (s.assess observed now) t x s') ∧
    ∀ (f : Fault) (r : Records) (t : Trace) (s' : Secret) (r' : Records),
      (s.assess observed now).changed = true →
      Run (Records.world f) (settle Action.catalog Action.count caller s (s.assess observed now)) r t
        (.ok (), s') r' →
      ∃ before after, r.lookup (caller.tenant, s.id) = some before ∧
        r' = r.put (caller.tenant, s.id) after ∧ r'.lookup (caller.tenant, s.id) = some after ∧
        after = { before with
          deleted := before.deleted || (s.assess observed now).generationFailed,
          phase := (s.assess observed now).phase,
          reason := (s.assess observed now).reason } := by
  have found := Secret.finding_assess s observed now
  constructor
  · intro σ w y t x s' y' h
    exact (settlement_of_run h).outcome found.changed_iff.1
  · intro f r t s' r' changed h
    obtain ⟨before, stands, rfl⟩ := (settlement_of_run h).stored changed h.path
    refine ⟨before, before.settledTo (s.assess observed now), stands, rfl, Keyed.lookup_put_self, ?_⟩
    rw [Secret.settledTo, if_pos changed]
    rfl

/-- The answers of collaborators that do no more than delete a record. -/
def deletesAlone (s : Secret) : (c : Call) → c.Answer
  | .deleteRecord .. => .ok s
  | c => Call.refused (.transport "down") c

/-- A secret whose material is lost: its record is deleted, and its phase cannot be written; and the same
where both can. -/
theorem settling_leaves_what_was_written_of_lost :
    let caller : Caller := ⟨⟨"s", "o"⟩, "c", none⟩
    let secret : Secret := { Secret.named "key" with id := "k" }
    let v := secret.assess (some .destroyed) ⟨0, 0⟩
    let key := (caller.tenant, "k")
    let r := ((settle Action.catalog Action.count caller secret v).run
      (Records.answer (Call.refused (.transport "down"))) [(key, secret)]).2
    Outcome caller secret v
      [⟨.deleteRecord caller "k", .ok secret⟩, ⟨.changeRecord caller "k" v.change, .error (.transport "down")⟩]
      (.error (.transport "down")) { secret with deleted := true } ∧
    ∃ record, r.lookup key = some record ∧ record.deleted = true ∧
      (record.phase, record.reason) = (.destroyed, some .generationFailed) := by
  intro caller secret v key r
  have leaves := settling_leaves_what_was_written caller secret (some .destroyed) ⟨0, 0⟩
  constructor
  · let answer : Unit → (c : Call) → c.Answer × Unit := fun _ c => (deletesAlone secret c, ())
    have run : Run free _ () (Program.trace answer _ ()) (Program.run answer _ ()).1 () :=
      Run.of_answers (fun _ _ => trivial) (settle Action.catalog Action.count caller secret v) ()
    exact leaves.1 Unit free () _ _ _ () run
  · have run := Run.of_answers (w := Records.world .never) (Records.world_answer (Call.refused (.transport "down")))
      (settle Action.catalog Action.count caller secret v) [(key, secret)]
    obtain ⟨before, after, stands, -, stored, rfl⟩ := leaves.2 .never _ _ _ _ rfl run
    exact ⟨_, stored, Bool.or_true _, rfl⟩

end Lifecycle

end KeyCustody
