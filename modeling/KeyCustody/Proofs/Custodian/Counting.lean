import KeyCustody.Proofs.Custodian.History
import KeyCustody.Proofs.Custodian.Undoing
import KeyCustody.Proofs.Keystore.Accounts
import KeyCustody.Proofs.Reconciliation

/-!
# What requests count

Every request counts how it has ended. A creation that is undone counts that, and a record that is brought
up to date counts the phases it leaves and enters. What the keystore counts comes on top.
-/

namespace KeyCustody

open Program
open Catalog (Query)
open Keystore (Accounted Creation Even Looked Uneventful)
open Settings (KeystoreKind)
open Time (Instant)

def Counter.tellsEnd : Counter → Bool
  | operation .. | rollback _ | rollbackFailure _ => true
  | _ => false

namespace Custodian

def Request.operation : Request → String
  | .create .. => "create"
  | .fetch .. => "get"
  | .list .. => "list"
  | .total .. => "head"
  | .destroy .. => "delete"

/-- Whether a request was a creation within the limits that was then refused. -/
def Request.rolledBack (succeeded : Bool) : Request → Bool
  | .create _ s _ => { s with name := Text.trim s.name }.validateNew.isOk && !succeeded
  | _ => false

/-- What a request counts of its undoing, if it is undone. -/
def Request.undone (q : Request) (succeeded halted : Bool) : List Counter :=
  if q.rolledBack succeeded then .rollback "create" :: if halted then [.rollbackFailure "create"] else [] else []

/-- Whether a compensation failed among the calls of a creation. -/
def halted (t : Trace) : Bool := (undoings t).any (!·.2)

/-- What is made of a record and what was observed of it. -/
def Reconciled (caller : Caller) (now : Instant) (p : Secret × Option Phase) (r : Reconciliation) : Prop :=
  r.record = p.1 ∧ r.verdict = p.1.assess p.2 now ∧
    ∃ x, Run free (Lifecycle.settle Action.catalog Action.count caller p.1 r.verdict) () r.calls x ()

/-- The reconciliations of a request among its calls. Only requests that read reconcile, and not before
they have read the clock. -/
inductive Reconciles (k : Keystore Action) : Request → Trace → List Reconciliation → Prop
  | fetched {caller : Caller} {id : String} {record : Secret} {observed : Option Phase} {now : Instant}
      {r : Reconciliation} {t : Trace} (seen : Seen free k caller id record.deleted () t observed ())
      (settled : Reconciled caller now (record, observed) r) :
      Reconciles k (.fetch caller id)
        (⟨.getRecord caller id, .ok (some record)⟩ :: (t ++ ⟨.now, now⟩ :: r.calls)) [r]
  | listed {caller : Caller} {q : Query} {page : List Secret} {observed : List (Option Phase)} {now : Instant}
      {rs : List Reconciliation} {t : Trace}
      (checked : Run free (page.mapM (Lifecycle.observe (k.check caller))) () t observed ())
      (settled : List.Forall₂ (Reconciled caller now) (page.zip observed) rs) :
      Reconciles k (.list caller q)
        (⟨.listRecords caller q, .ok page⟩ :: ⟨.now, now⟩ :: (t ++ rs.flatMap (·.calls))) rs
  | none {q : Request} {t : Trace}
      (idle : (∀ caller id, q ≠ .fetch caller id) ∧ (∀ caller p, q ≠ .list caller p) ∨ ∀ v ∈ t, v.call ≠ .now) :
      Reconciles k q t []

variable {tries : Nat} {kind : KeystoreKind} {caller : Caller} {id : String} {t u : Trace} {q : Request}
  {source target : Phase}

/-! ## Reading -/

theorem Reconciled.settles {now : Instant} {p : Secret × Option Phase} {r : Reconciliation}
    (h : Reconciled caller now p r) : Lifecycle.Settles r.record r.verdict r.calls := by
  obtain ⟨same, -, _, settled⟩ := h
  rw [same]
  exact Lifecycle.settles_of_run settled

theorem looked_seen {σ : Type} {w : World σ} {y y' : σ} {deleted : Bool} {observed : Option Phase}
    (h : Seen w (Action.keystore tries kind) caller id deleted y t observed y') : Looked kind t := by
  cases h with
  | unasked => exact Keystore.chains_looked.refl ()
  | asked _ observed => exact Keystore.looked_payload _ _ _ _ observed

theorem looked_observe {σ : Type} {w : World σ} {page : List Secret} : Respects w (fun _ t _ => Looked kind t)
    (page.mapM (Lifecycle.observe ((Action.keystore tries kind).check caller))) := by
  refine .mapM Keystore.chains_looked fun s _ => ?_
  unfold Lifecycle.observe
  by_cases waiting : s.phase ≠ .preactivation
  · rw [if_pos waiting]
    exact .pure Keystore.chains_looked _
  · rw [if_neg waiting]
    exact .bind Keystore.chains_looked Keystore.looked_check fun _ => .pure Keystore.chains_looked _

theorem count_transition_looked (h : Looked kind t) : (counts t).count (.transition source target) = 0 :=
  List.count_eq_zero.2 fun member => nomatch h.counted _ member

theorem count_transitions {now : Instant} {pairs : List (Secret × Option Phase)} {rs : List Reconciliation}
    (h : List.Forall₂ (Reconciled caller now) pairs rs) :
    (counts (rs.flatMap (·.calls))).count (.transition source target) = rs.countP (·.enters source target) := by
  induction h with
  | nil => rfl
  | cons first _ ih =>
    rw [List.flatMap_cons, counts_append, List.count_append, ih, first.settles.count_transition, List.countP_cons,
      Nat.add_comm]

theorem early_of_keystore (keystore : ∀ c ∈ counts t, c.isKeystore = true) : ∀ c ∈ counts t, c.tellsEnd = false := by
  intro c member
  have keystore := keystore c member
  cases c with
  | retriesExhausted | orphanedOrder => rfl
  | _ => cases keystore

theorem early_of_settles {s : Secret} {v : Verdict} (h : Lifecycle.Settles s v t) :
    ∀ c ∈ counts t, c.tellsEnd = false := by
  intro c member
  rw [h.counted c member]
  rfl

section
variable {σ : Type} {w : World σ} {y y' : σ}

theorem even_fetched (h : Fetched w (Action.keystore tries kind) caller id y u y') :
    Even kind u ∧ ∀ c ∈ counts u, c.tellsEnd = false := by
  cases h with
  | unknown | destroyed => exact ⟨Even.nil.cons (.of_uncounted rfl rfl rfl) rfl, List.forall_mem_nil _⟩
  | unseen _ _ failed =>
    have looked := Keystore.looked_payload _ _ _ _ failed
    exact ⟨looked.toEven.cons (.of_uncounted rfl rfl rfl) rfl, early_of_keystore looked.counted⟩
  | @settled _ _ now _ _ t₂ _ _ _ _ _ _ seen _ settled =>
    have looked := looked_seen seen
    have settles := Lifecycle.settles_of_run settled
    have dated : Even kind (⟨.now, now⟩ :: t₂) := settles.even.cons (.of_uncounted rfl rfl rfl) rfl
    refine ⟨(looked.toEven.append dated).cons (.of_uncounted rfl rfl rfl) rfl, ?_⟩
    rw [counts_other rfl, counts_append, counts_other rfl]
    exact List.forall_mem_append.2 ⟨early_of_keystore looked.counted, early_of_settles settles⟩

theorem reconciles_fetched (h : Fetched free (Action.keystore tries kind) caller id () u ()) :
    ∃ rs, Reconciles (Action.keystore tries kind) (.fetch caller id) u rs := by
  cases h with
  | unknown | destroyed => exact ⟨[], .none (.inr (List.forall_mem_singleton.2 nofun))⟩
  | unseen _ _ failed =>
    exact ⟨[], .none (.inr (List.forall_mem_cons.2 ⟨nofun, (Keystore.looked_payload _ _ _ _ failed).untimed⟩))⟩
  | @settled record observed now x t₁ t₂ _ _ _ _ _ _ seen _ settled =>
    exact ⟨_, .fetched seen (r := ⟨record, record.assess observed now, t₂⟩) ⟨rfl, rfl, x, settled⟩⟩

theorem transitions_fetched {rs : List Reconciliation}
    (h : Fetched free (Action.keystore tries kind) caller id () u ())
    (reconciles : Reconciles (Action.keystore tries kind) (.fetch caller id) u rs) :
    (counts u).count (.transition source target) = rs.countP (·.enters source target) := by
  cases reconciles with
  | @fetched _ _ _ _ _ r _ seen settled =>
    have looked := looked_seen seen
    rw [counts_other rfl, counts_append, counts_other rfl, List.count_append, count_transition_looked looked,
      settled.settles.count_transition, Nat.zero_add, List.countP_singleton]
  | none idle =>
    have unread : ∀ v ∈ u, v.call ≠ .now := idle.resolve_left fun other => other.1 _ _ rfl
    cases h with
    | unknown | destroyed => rfl
    | unseen _ _ failed =>
      rw [counts_other rfl, count_transition_looked (Keystore.looked_payload _ _ _ _ failed)]
      rfl
    | @settled _ _ now => exact absurd rfl (unread ⟨.now, now⟩ (by simp))

/-! ## Pages -/

theorem settlements_of_run {now : Instant} {pairs : List (Secret × Option Phase)} {secrets : List Secret}
    (h : Run free (pairs.mapM fun p => return (← Lifecycle.settle Action.catalog Action.count caller p.1
      (p.1.assess p.2 now)).2 : Action (List Secret)) () t secrets ()) :
    ∃ rs, t = rs.flatMap (·.calls) ∧ List.Forall₂ (Reconciled caller now) pairs rs := by
  induction pairs generalizing t secrets with
  | nil =>
    obtain ⟨rfl, -, -⟩ := Run.pure_iff.1 h
    exact ⟨[], rfl, .nil⟩
  | cons p pairs ih =>
    obtain ⟨t₁, x, _, _, _, rfl, -, settled, remaining⟩ := Run.mapM_mapped_cons h
    obtain ⟨rs, rfl, others⟩ := ih remaining
    exact ⟨⟨p.1, p.1.assess p.2 now, t₁⟩ :: rs, rfl, .cons ⟨rfl, rfl, x, settled⟩ others⟩

theorem even_settlements {now : Instant} {pairs : List (Secret × Option Phase)} {rs : List Reconciliation}
    (h : List.Forall₂ (Reconciled caller now) pairs rs) :
    Even kind (rs.flatMap (·.calls)) ∧ ∀ c ∈ counts (rs.flatMap (·.calls)), c.tellsEnd = false := by
  induction h with
  | nil => exact ⟨.nil, List.forall_mem_nil _⟩
  | cons first _ ih =>
    rw [List.flatMap_cons, counts_append]
    exact ⟨first.settles.even.append ih.1,
      List.forall_mem_append.2 ⟨early_of_settles first.settles, ih.2⟩⟩

theorem even_listed {p : Query} (h : Listed free (Action.keystore tries kind) caller p () u ()) :
    Even kind u ∧ ∀ c ∈ counts u, c.tellsEnd = false := by
  cases h with
  | malformed => exact ⟨.nil, List.forall_mem_nil _⟩
  | unlisted => exact ⟨Even.nil.cons (.of_uncounted rfl rfl rfl) rfl, List.forall_mem_nil _⟩
  | @settled _ _ now _ t₁ _ _ _ _ _ _ _ checked settled =>
    have looked := looked_observe _ _ _ _ checked
    obtain ⟨rs, rfl, reconciled⟩ := settlements_of_run settled
    obtain ⟨even, early⟩ : Even kind _ ∧ _ := even_settlements reconciled
    have dated : Even kind (⟨.now, now⟩ :: (t₁ ++ rs.flatMap (·.calls))) :=
      (looked.toEven.append even).cons (.of_uncounted rfl rfl rfl) rfl
    refine ⟨dated.cons (.of_uncounted rfl rfl rfl) rfl, ?_⟩
    rw [counts_other rfl, counts_other rfl, counts_append]
    exact List.forall_mem_append.2 ⟨early_of_keystore looked.counted, early⟩

theorem reconciles_listed {p : Query} (h : Listed free (Action.keystore tries kind) caller p () u ()) :
    ∃ rs, Reconciles (Action.keystore tries kind) (.list caller p) u rs := by
  cases h with
  | malformed => exact ⟨[], .none (.inr (List.forall_mem_nil _))⟩
  | unlisted => exact ⟨[], .none (.inr (List.forall_mem_singleton.2 nofun))⟩
  | settled _ _ checked settled =>
    obtain ⟨rs, rfl, reconciled⟩ := settlements_of_run settled
    exact ⟨rs, .listed checked reconciled⟩

theorem transitions_listed {p : Query} {rs : List Reconciliation}
    (h : Listed free (Action.keystore tries kind) caller p () u ())
    (reconciles : Reconciles (Action.keystore tries kind) (.list caller p) u rs) :
    (counts u).count (.transition source target) = rs.countP (·.enters source target) := by
  cases reconciles with
  | listed checked settled =>
    rw [counts_other rfl, counts_other rfl, counts_append, List.count_append,
      count_transition_looked (looked_observe _ _ _ _ checked), count_transitions settled, Nat.zero_add]
  | none idle =>
    have unread : ∀ v ∈ u, v.call ≠ .now := idle.resolve_left fun other => other.2 _ _ rfl
    cases h with
    | malformed | unlisted => rfl
    | @settled _ _ now => exact absurd rfl (unread ⟨.now, now⟩ (by simp))

/-! ## Destruction -/

theorem looked_lastMaterial (left : Nat) : Respects w (fun _ t _ => Looked kind t)
    ((Action.custodian (Action.keystore tries kind)).lastMaterial caller id left).run := by
  induction left with
  | zero => exact .throw Keystore.chains_looked _
  | succ left ih =>
    refine .bindExcept Keystore.chains_looked Keystore.looked_payload fun observed => ?_
    by_cases waiting : observed.phase = .preactivation
    · rw [if_pos waiting]
      exact ih
    · rw [if_neg waiting]
      exact .pure Keystore.chains_looked _

theorem looked_observeLast {whole : Bool} : Respects w (fun _ t _ => Looked kind t)
    ((Action.custodian (Action.keystore tries kind)).observeLast caller id whole).run := by
  cases whole with
  | false => exact .pure Keystore.chains_looked _
  | true =>
    refine .bind Keystore.chains_looked (looked_lastMaterial Retry.limit) fun x => ?_
    cases x <;> exact .pure Keystore.chains_looked _

theorem accounted_remove {whole : Bool} {ledger : Ledger Action}
    {r : Except Error (Option Secret) × Ledger Action}
    (h : Run w ((Action.custodian (Action.keystore tries kind)).remove caller id whole ledger) y u r y') :
    Accounted kind u ∧ ∀ c ∈ counts u, c.isKeystore = true := by
  unfold remove at h
  obtain ⟨t₁, x, _, _, rfl, observed, ended⟩ := Run.bind_iff.1 h
  have looked := looked_observeLast _ _ _ _ observed
  cases x with
  | error _ =>
    obtain ⟨rfl, -, -⟩ := Run.pure_iff.1 ended
    rw [List.append_nil]
    exact ⟨looked.toEven.accounted, looked.counted⟩
  | ok observed =>
    obtain ⟨t₂, ⟨result, _⟩, _, _, rfl, deleted, marked⟩ := Run.bind_iff.1 ended
    obtain ⟨accounted, counted⟩ := Keystore.accounted_keystore looked.toEven deleted
    have whole : ∀ c ∈ counts (t₁ ++ t₂), c.isKeystore = true := by
      rw [counts_append]
      exact List.forall_mem_append.2 ⟨looked.counted, counted⟩
    cases result with
    | error _ =>
      obtain ⟨rfl, -, -⟩ := Run.pure_iff.1 marked
      rw [List.append_nil]
      exact ⟨accounted, whole⟩
    | ok _ =>
      obtain ⟨_, _, _, _, rfl, asked, passed⟩ := Run.bind_iff.1 marked
      obtain ⟨rfl, -⟩ := Run.ask_iff.1 asked
      obtain ⟨rfl, -, -⟩ := Run.pure_iff.1 passed
      rw [List.append_nil, ← List.append_assoc]
      refine ⟨accounted.append (List.forall_mem_singleton.2 (.of_uncounted rfl rfl rfl)), ?_⟩
      rw [counts_append, counts_other rfl]
      simpa using whole

/-! ## Creation -/

/-- A call of a creation or of its undoing, which counts nothing. -/
def builds : Call → Bool
  | .postSecret .. | .postOrder .. | .addEntry .. | .getEntry .. | .putMaterial .. => true
  | .drawIdentifier | .drawReference | .drawBytes _ => true
  | _ => false

/-- A compensation that calls for one step to be undone, or for material to be dropped. -/
inductive Undoes : Compensation Action → Prop
  | step (label : String) (x : Step) : Undoes ⟨label, x.undo⟩
  | drop (label ref : String) : Undoes ⟨label, ExceptT.lift ((Call.vault Action.make).drop ref)⟩

/-- Calls of a creation, of which only the last that looks up a candidate may be in vain. -/
structure Building (kind : KeystoreKind) (t : Trace) : Prop where
  calls : ∀ v ∈ t, builds v.call = true
  few : ∀ operation, t.countP (fun v => Keystore.vain? kind v = some operation) ≤ 1

theorem Building.nil : Building kind [] := ⟨List.forall_mem_nil _, fun _ => Nat.zero_le _⟩

theorem Building.single {v : Event} (call : builds v.call = true) : Building kind [v] where
  calls := List.forall_mem_singleton.2 call
  few _ := List.countP_le_length

theorem Building.cons {v : Event} (h : Building kind t) (call : builds v.call = true)
    (well : Keystore.vain? kind v = none) : Building kind (v :: t) where
  calls := List.forall_mem_cons.2 ⟨call, h.calls⟩
  few operation := by
    rw [List.countP_cons, well]
    exact h.few operation

theorem building_allocateWithin {e : Registry.Entry} {tenant : Tenant} {left : Nat} :
    Respects w (fun _ t _ => Building kind t)
      (Registry.allocateWithin tries Action.registry (Call.candidates Action.make tries).draw tenant e left).run := by
  intro y t r y' h
  induction left generalizing y t with
  | zero =>
    obtain ⟨rfl, -, -⟩ := Run.throw_iff.1 h
    exact .nil
  | succ left ih =>
    unfold Registry.allocateWithin at h
    obtain ⟨_, candidate, _, _, rfl, drawn, looked⟩ := Run.bind_iff.1 h
    obtain ⟨rfl, -⟩ := Run.ask_iff.1 drawn
    obtain ⟨_, x, _, t₂, rfl, asked, ended⟩ := Run.bind_iff.1 looked
    obtain ⟨rfl, -⟩ := Run.ask_iff.1 asked
    cases x with
    | ok found =>
      have rest : Building kind (⟨.getEntry tenant candidate, .ok found⟩ :: t₂) := (ih _ _ ended).cons rfl rfl
      exact rest.cons rfl rfl
    | error error =>
      by_cases free : error.isNotFound = true
      · simp only [free, if_true] at ended
        obtain ⟨_, added, _, _, rfl, asked, passed⟩ := Run.bind_iff.1 ended
        obtain ⟨rfl, -⟩ := Run.ask_iff.1 asked
        obtain ⟨rfl, -, -⟩ := Run.pure_iff.1 passed
        -- a candidate that is not found is free, which is no failure that may pass
        have final : ∀ e, (.error error : Except Error Registry.Entry) = .error e → e.isRetryable = false := by
          rintro _ ⟨⟩
          cases error with
          | notFound => rfl
          | _ => cases free
        have last : Building kind [⟨.addEntry tenant { e with issuedId := candidate }, added⟩] := .single rfl
        have rest : Building kind (⟨.getEntry tenant candidate, .error error⟩ :: [_]) :=
          last.cons rfl (Keystore.vain_final final)
        exact rest.cons rfl rfl
      · simp only [free, Bool.false_eq_true, if_false] at ended
        obtain ⟨rfl, -, -⟩ := Run.pure_iff.1 ended
        have last : Building kind [⟨.getEntry tenant candidate, .error error⟩] := .single rfl
        exact last.cons rfl rfl

/-- What the keystore has done for a creation, with what is to be undone of it. -/
structure Built (kind : KeystoreKind) (t : Trace) (ledger : Ledger Action) : Prop extends Building kind t where
  incomplete : ledger.completed = false
  undoes : ∀ c ∈ ledger.pending, Undoes c

section
variable {secret : Secret} {material : Sealed} {created : Creation Action}

theorem Built.refused {error : Error} : Built kind [] (⟨.error error, secret, .empty⟩ : Creation Action).ledger :=
  ⟨.nil, rfl, List.forall_mem_nil _⟩

theorem Built.cons {v : Event} {ledger : Ledger Action} (h : Built kind t ledger) (call : builds v.call = true)
    (well : Keystore.vain? kind v = none) : Built kind (v :: t) ledger :=
  ⟨h.toBuilding.cons call well, h.incomplete, h.undoes⟩

theorem built_store (h : Run w (Keystore.Networked.store Action.registry (Call.barbican Action.make)
    (Call.candidates Action.make tries) caller secret material .empty) y t created y') :
    Built .barbican t created.ledger := by
  obtain ⟨_, x, _, t₁, rfl, asked, ended⟩ := Run.bind_iff.1 h
  obtain ⟨rfl, -⟩ := Run.ask_iff.1 asked
  refine Built.cons ?_ rfl rfl
  cases x with
  | error _ =>
    obtain ⟨rfl, rfl, -⟩ := Run.pure_iff.1 ended
    exact .refused
  | ok ref =>
    obtain ⟨_, x, _, _, rfl, allocated, passed⟩ := Run.bind_iff.1 ended
    have building : Building .barbican _ := building_allocateWithin _ _ _ _ allocated
    have posted : Undoes ⟨"delete backend secret", (Call.barbican Action.make).deleteSecret caller ref⟩ :=
      .step _ (.material caller ref)
    cases x with
    | error _ =>
      obtain ⟨rfl, rfl, -⟩ := Run.pure_iff.1 passed
      rw [List.append_nil]
      exact ⟨building, rfl, List.forall_mem_singleton.2 posted⟩
    | ok id =>
      obtain ⟨rfl, rfl, -⟩ := Run.pure_iff.1 passed
      rw [List.append_nil]
      have added : Undoes ⟨"delete translation row", Action.registry.delete caller.tenant id⟩ :=
        .step _ (.row caller.tenant id)
      exact ⟨building, rfl, List.forall_mem_cons.2 ⟨added, List.forall_mem_singleton.2 posted⟩⟩

theorem built_order {key : Keystore.KeyParameters} (h : Run w (Keystore.Networked.order Action.registry
    (Call.barbican Action.make) (Call.candidates Action.make tries) caller secret key .empty) y t created y') :
    Built .barbican t created.ledger := by
  obtain ⟨_, x, _, t₁, rfl, asked, ended⟩ := Run.bind_iff.1 h
  obtain ⟨rfl, -⟩ := Run.ask_iff.1 asked
  refine Built.cons ?_ rfl rfl
  cases x with
  | error _ =>
    obtain ⟨rfl, rfl, -⟩ := Run.pure_iff.1 ended
    exact .refused
  | ok ref =>
    obtain ⟨_, x, _, _, rfl, allocated, passed⟩ := Run.bind_iff.1 ended
    have building : Building .barbican _ := building_allocateWithin _ _ _ _ allocated
    cases x with
    | error _ | ok _ =>
      obtain ⟨rfl, rfl, -⟩ := Run.pure_iff.1 passed
      rw [List.append_nil]
      exact ⟨building, rfl, List.forall_mem_nil _⟩

theorem built_keep (h : Run w (Keystore.InMemory.keep Action.registry (Call.vault Action.make)
    (Call.fresh Action.make) (Call.candidates Action.make tries) caller secret material .empty) y t created y') :
    Built .memory t created.ledger := by
  obtain ⟨_, ref, _, _, rfl, asked, kept⟩ := Run.bind_iff.1 h
  obtain ⟨rfl, -⟩ := Run.ask_iff.1 asked
  obtain ⟨_, _, _, _, rfl, asked, placed⟩ := Run.bind_iff.1 kept
  obtain ⟨rfl, -⟩ := Run.ask_iff.1 asked
  refine Built.cons (Built.cons ?_ rfl rfl) rfl rfl
  obtain ⟨_, x, _, _, rfl, allocated, passed⟩ := Run.bind_iff.1 placed
  have building : Building .memory _ := building_allocateWithin _ _ _ _ allocated
  have stored : Undoes ⟨"delete memory material", ExceptT.lift ((Call.vault Action.make).drop ref)⟩ := .drop _ ref
  cases x with
  | error _ =>
    obtain ⟨rfl, rfl, -⟩ := Run.pure_iff.1 passed
    rw [List.append_nil]
    exact ⟨building, rfl, List.forall_mem_singleton.2 stored⟩
  | ok id =>
    obtain ⟨rfl, rfl, -⟩ := Run.pure_iff.1 passed
    rw [List.append_nil]
    have added : Undoes ⟨"delete translation row", Action.registry.delete caller.tenant id⟩ :=
      .step _ (.row caller.tenant id)
    exact ⟨building, rfl, List.forall_mem_cons.2 ⟨added, List.forall_mem_singleton.2 stored⟩⟩

theorem built_networked (h : Run w ((Action.barbicanKeystore tries).create caller secret .empty) y t created y') :
    Built .barbican t created.ledger := by
  cases supplied : secret.material? with
  | some material =>
    rw [create_of_material supplied] at h
    exact built_store h
  | none =>
    have h : Run w (Keystore.Networked.create Action.registry (Call.barbican Action.make)
      (Call.candidates Action.make tries) caller secret .empty) y t created y' := h
    simp only [Keystore.Networked.create, supplied] at h
    cases key : secret.keyParameters with
    | error _ =>
      simp only [key] at h
      obtain ⟨rfl, rfl, -⟩ := Run.pure_iff.1 h
      exact .refused
    | ok _ =>
      simp only [key] at h
      exact built_order h

theorem built_inMemory (h : Run w ((Action.memoryKeystore tries).create caller secret .empty) y t created y') :
    Built .memory t created.ledger := by
  have h : Run w (Keystore.InMemory.create Action.registry (Call.vault Action.make) (Call.fresh Action.make)
    (Call.candidates Action.make tries) caller secret .empty) y t created y' := h
  unfold Keystore.InMemory.create at h
  cases supplied : secret.material? with
  | some material =>
    simp only [supplied] at h
    exact built_keep h
  | none =>
    simp only [supplied] at h
    cases key : secret.keyParameters with
    | error _ =>
      simp only [key] at h
      obtain ⟨rfl, rfl, -⟩ := Run.pure_iff.1 h
      exact .refused
    | ok _ =>
      simp only [key] at h
      obtain ⟨_, _, _, _, rfl, generated, kept⟩ := Run.bind_iff.1 h
      obtain ⟨_, _, _, _, rfl, asked, passed⟩ := Run.bind_iff.1 generated
      obtain ⟨rfl, -⟩ := Run.ask_iff.1 asked
      obtain ⟨rfl, -, -⟩ := Run.pure_iff.1 passed
      exact (built_keep kept).cons rfl rfl

theorem built_create (h : Run w ((Action.keystore tries kind).create caller secret .empty) y t created y') :
    Built kind t created.ledger :=
  match kind with
  | .barbican => built_networked h
  | .memory => built_inMemory h

end

def undoes : Call → Bool
  | .deleteSecret .. | .deleteEntry .. | .dropMaterial _ => true
  | _ => false

theorem run_undo_step {c : Compensation Action} {x : Except Error Unit} (undoes : Undoes c)
    (h : Run w c.undo.run y t x y') :
    (∀ v ∈ t, Custodian.undoes v.call = true) ∧ halted t = !x.isOk := by
  cases undoes with
  | step _ taken =>
    cases taken with
    | material | row =>
      obtain ⟨rfl, -⟩ := Run.ask_iff.1 h
      exact ⟨List.forall_mem_singleton.2 rfl, Bool.or_false _⟩
  | drop =>
    obtain ⟨_, _, _, _, rfl, asked, passed⟩ := Run.bind_iff.1 h
    obtain ⟨rfl, -⟩ := Run.ask_iff.1 asked
    obtain ⟨rfl, rfl, -⟩ := Run.pure_iff.1 passed
    exact ⟨List.forall_mem_singleton.2 rfl, rfl⟩

@[simp] theorem halted_append {t' : Trace} : halted (t ++ t') = (halted t || halted t') := by
  simp [halted]

/-- Compensations are undone unless one of them fails. -/
theorem run_undoes {pending : List (Compensation Action)} {outcome : Ledger.Outcome × List (Compensation Action)}
    (undoes : ∀ c ∈ pending, Undoes c) (h : Run w (Ledger.undoAll pending) y t outcome y') :
    (∀ v ∈ t, Custodian.undoes v.call = true) ∧ (outcome.1 = .undone ↔ halted t = false) := by
  induction pending generalizing y t with
  | nil =>
    obtain ⟨rfl, rfl, -⟩ := Run.pure_iff.1 h
    exact ⟨List.forall_mem_nil _, iff_of_true rfl rfl⟩
  | cons c pending ih =>
    obtain ⟨first, rest⟩ := List.forall_mem_cons.1 undoes
    obtain ⟨t₁, _, t₂, rfl, undone, others⟩ | ⟨e, rfl, failed⟩ := run_undoAll_cons h
    · obtain ⟨only, well⟩ := run_undo_step first undone
      obtain ⟨only', outcome⟩ := ih rest others
      refine ⟨List.forall_mem_append.2 ⟨only, only'⟩, ?_⟩
      rw [outcome, halted_append, well]
      rfl
    · obtain ⟨only, halts⟩ := run_undo_step first failed
      rw [halts]
      exact ⟨only, iff_of_false nofun nofun⟩

theorem quiet_of_undoes {v : Event} (h : undoes v.call = true) : (∀ kind, Uneventful kind v) ∧ v.counter? = none := by
  obtain ⟨call, x⟩ := v
  cases call with
  | deleteSecret | deleteEntry | dropMaterial => exact ⟨fun _ => .of_uncounted rfl rfl rfl, rfl⟩
  | _ => cases h

theorem run_rollBack_undoes {k : Keystore Action} {operation : String} {ledger ledger' : Ledger Action}
    (incomplete : ledger.completed = false) (undoes : ∀ c ∈ ledger.pending, Undoes c)
    (h : Run w ((Action.custodian k).rollBack operation ledger) y t ledger' y') :
    (∀ v ∈ t, Uneventful kind v) ∧
      counts t = .rollback operation :: if halted t then [.rollbackFailure operation] else [] := by
  obtain ⟨t₁, outcome, _, t₂, rfl, undone, -, rfl⟩ := run_rollBack_counts incomplete h
  obtain ⟨only, complete⟩ := run_undoes undoes undone
  have quiet : counts t₁ = [] := List.filterMap_eq_nil_iff.2 fun v member => (quiet_of_undoes (only v member)).2
  have own : ∀ c : Counter, c.isKeystore = false → Uneventful kind ⟨.count c, ()⟩ := by
    refine fun c other => ⟨?_, rfl, rfl⟩
    rintro _ ⟨⟩
    exact other
  have before : ∀ v ∈ t₁, Uneventful kind v := fun v member => (quiet_of_undoes (only v member)).1 kind
  rw [counts_append, quiet, List.nil_append, halted_append]
  by_cases all : outcome.1 = .undone
  · rw [if_pos all, complete.1 all]
    exact ⟨List.forall_mem_append.2 ⟨before, List.forall_mem_singleton.2 (own _ rfl)⟩, rfl⟩
  · have failed : halted t₁ = true := by simpa using mt complete.2 all
    rw [if_neg all, failed]
    refine ⟨List.forall_mem_append.2 ⟨before, ?_⟩, rfl⟩
    exact List.forall_mem_cons.2 ⟨own _ rfl, List.forall_mem_singleton.2 (own _ rfl)⟩

theorem Building.quiet (h : Building kind t) :
    counts t = [] ∧ halted t = false ∧ ∀ v ∈ t, v.call.dropsOrder = false := by
  have each : ∀ v ∈ t, v.counter? = none ∧ Step.undoing? v = none ∧ v.call.dropsOrder = false := by
    rintro ⟨call, x⟩ member
    have builds := h.calls _ member
    cases call with
    | postSecret | postOrder | addEntry | getEntry | putMaterial | drawIdentifier | drawReference | drawBytes =>
      exact ⟨rfl, rfl, rfl⟩
    | _ => cases builds
  have untried : undoings t = [] := List.filterMap_eq_nil_iff.2 fun v member => (each v member).2.1
  refine ⟨List.filterMap_eq_nil_iff.2 fun v member => (each v member).1, ?_, fun v member => (each v member).2.2⟩
  rw [halted, untried]
  rfl

theorem Building.accounted (h : Building kind t) : Accounted kind t := by
  obtain ⟨uncounted, -, orders⟩ := h.quiet
  refine Even.nil.accounted_few (fun operation => ?_) orders (uncounted ▸ List.forall_mem_nil _)
  exact Nat.lt_of_le_of_lt (Nat.add_le_add (Keystore.slack_le operation) (h.few operation)) (by decide)

theorem counts_unplaced {secret : Secret} {error : Error} {ledger : Ledger Action}
    (valid : secret.validateNew.isOk = true)
    (h : Unplaced w (Action.keystore tries kind) caller secret y error ledger t y') :
    Accounted kind t ∧ counts t = .rollback "create" :: if halted t then [.rollbackFailure "create"] else [] := by
  cases h with
  | invalid violated =>
    rw [violated] at valid
    cases valid
  | refused made _ undone =>
    have built := built_create made
    obtain ⟨quiet, well, -⟩ := built.quiet
    obtain ⟨uneventful, counted⟩ := run_rollBack_undoes built.incomplete built.undoes undone
    rw [counts_append, quiet, halted_append, well]
    exact ⟨built.accounted.append uneventful, counted⟩
  | unrecorded made _ _ _ _ undone =>
    have built := built_create made
    obtain ⟨quiet, well, -⟩ := built.quiet
    obtain ⟨uneventful, counted⟩ := run_rollBack_undoes built.incomplete built.undoes undone
    rw [counts_append, counts_append, quiet, halted_append, halted_append, well]
    refine ⟨(built.accounted.append ?_).append uneventful, counted⟩
    exact List.forall_mem_cons.2 ⟨.of_uncounted rfl rfl rfl, List.forall_mem_singleton.2 (.of_uncounted rfl rfl rfl)⟩

theorem run_place_invalid {k : Keystore Action} {secret : Secret} {r : Except Error Secret × Ledger Action}
    (invalid : { secret with name := Text.trim secret.name : Secret }.validateNew.isOk = false)
    (h : Run w ((Action.custodian k).place caller secret) y t r y') : t = [] := by
  cases violated : { secret with name := Text.trim secret.name : Secret }.validateNew with
  | ok =>
    rw [violated] at invalid
    cases invalid
  | error _ =>
    rw [place_invalid violated] at h
    exact (Run.pure_iff.1 h).1

/-- A creation that got past the limits and failed counts that it was undone, and if that failed, that too. -/
theorem counts_place {secret : Secret} {x : Except Error Secret} {ledger : Ledger Action} (whole : Bool)
    (h : Run w ((Action.custodian (Action.keystore tries kind)).place caller secret) y t (x, ledger) y') :
    Accounted kind t ∧ counts t = (Request.create caller secret whole).undone x.isOk (halted t) := by
  cases valid : { secret with name := Text.trim secret.name : Secret }.validateNew.isOk with
  | false =>
    obtain rfl := run_place_invalid valid h
    have stands : ¬ (Request.create caller secret whole).rolledBack x.isOk = true := by simp [Request.rolledBack, valid]
    rw [Request.undone, if_neg stands]
    exact ⟨Even.nil.accounted, rfl⟩
  | true =>
    cases x with
    | ok stored =>
      have stands : ¬ (Request.create caller secret whole).rolledBack
          (Except.ok stored : Except Error Secret).isOk = true := by
        simp [Request.rolledBack, Except.isOk, Except.toBool]
      obtain ⟨_, _, _, _, _, _, _, _, _, rfl, made, _, read, filed, -⟩ := run_place_stored h
      obtain ⟨rfl, -⟩ := Run.ask_iff.1 read
      obtain ⟨rfl, -⟩ := Run.ask_iff.1 filed
      have built := built_create made
      rw [Request.undone, if_neg stands, counts_append, built.quiet.1]
      refine ⟨built.accounted.append ?_, rfl⟩
      exact List.forall_mem_cons.2 ⟨.of_uncounted rfl rfl rfl, List.forall_mem_singleton.2 (.of_uncounted rfl rfl rfl)⟩
    | error error =>
      have undone : (Request.create caller secret whole).rolledBack
          (Except.error error : Except Error Secret).isOk = true := (Bool.and_true _).trans valid
      rw [Request.undone, if_pos undone]
      exact counts_unplaced valid (run_place_error h)

end

end Custodian

end KeyCustody
