import KeyCustody.Proofs.Custodian.Consistency
import KeyCustody.Proofs.Lifecycle.Settlement

/-!
# What a read may write

Reads write verdicts, and each only to the record that it is on. A page that is read shows the records
that were listed, whether or not a verdict on them could be written.
-/

namespace KeyCustody

open Program
open Time (Instant)

namespace Catalog.Records

variable {f : Fault} {r r' : Records} {tenant : Tenant} {s : Secret} {id : String} {v : Verdict}

theorem put_put {key : Tenant × String} {s' : Secret} : (r.put key s).put key s' = r.put key s' :=
  congrArg (List.cons (key, s')) Keyed.erase_put

theorem change_of_lookup {c : PhaseChange} (found : r.lookup (tenant, id) = some s) :
    (r.change tenant id c).2 = r.put (tenant, id) (s.enter c) := by
  unfold Records.change
  rw [found]

theorem delete_of_lookup (found : r.lookup (tenant, id) = some s) :
    r.delete tenant id = (.ok { s with deleted := true, phase := .destroyed },
      r.put (tenant, id) { s with deleted := true, phase := .destroyed }) := by
  unfold Records.delete
  rw [found]

/-- What settling a verdict on a record as it stands can leave. -/
inductive Settled (tenant : Tenant) (s : Secret) (v : Verdict) (r : Records) : Records → Prop
  | unchanged : Settled tenant s v r r
  | entered (changed : v.changed = true) (well : v.generationFailed = false) :
      Settled tenant s v r (r.put (tenant, s.id) (s.enter v.change))
  | deleted (changed : v.changed = true) (failed : v.generationFailed = true) :
      Settled tenant s v r (r.put (tenant, s.id) { s with deleted := true, phase := .destroyed })
  | lost (changed : v.changed = true) (failed : v.generationFailed = true) :
      Settled tenant s v r (r.put (tenant, s.id) ({ s with deleted := true }.enter v.change))

theorem Settled.lookup_other {key : Tenant × String} (h : r.Settled tenant s v r')
    (different : key ≠ (tenant, s.id)) : r'.lookup key = r.lookup key := by
  cases h with
  | unchanged => rfl
  | entered | deleted | lost => exact Keyed.lookup_put_other different

end Catalog.Records

open Catalog (Records)

variable {f : Fault} {r r' : Records} {t : Trace} {caller : Caller}

namespace Lifecycle

variable {s s' : Secret} {v : Verdict} {x : Except Error Unit}

theorem path_written {id : String} {c : PhaseChange} {d : Counter} (path : Path (Records.world f) r
      (t ++ [⟨.changeRecord caller id c, .ok ()⟩, ⟨.count d, ()⟩]) r') :
    ∃ r₁, Path (Records.world f) r t r₁ ∧ f.Admits (r₁.change caller.tenant id c) r₁ (.ok ()) r' := by
  obtain ⟨r₁, before, path⟩ := Path.append_iff.1 path
  obtain ⟨r₂, answered, path⟩ := Path.cons_iff.1 path
  obtain ⟨_, counted, ended⟩ := Path.cons_iff.1 path
  obtain rfl : _ = r₂ := counted
  cases ended
  exact ⟨r₁, before, answered⟩

/-- The phase may be written, or not, once the record has been prepared for it. -/
theorem Prepared.state {s₁ : Secret} {r₁ : Records} (h : Prepared caller s v t s₁) (changed : v.changed = true)
    (found : r.lookup (caller.tenant, s.id) = some s) (before : Path (Records.world f) r t r₁)
    (written : r' = r₁ ∨ r' = (r₁.change caller.tenant s.id v.change).2) : r.Settled caller.tenant s v r' := by
  cases h with
  | plain well =>
    cases before
    obtain rfl | rfl := written
    · exact .unchanged
    · rw [Records.change_of_lookup found]
      exact .entered changed well
  | deleted failed last =>
    obtain ⟨_, answered, ended⟩ := Path.cons_iff.1 before
    cases ended
    have admitted : f.Admits (r.delete caller.tenant s.id) r (.ok last) r₁ := answered
    rw [Records.delete_of_lookup found] at admitted
    obtain ⟨-, rfl⟩ := Prod.mk.inj admitted.ok
    obtain rfl | rfl := written
    · exact .deleted changed failed
    · have marked : (r.put (caller.tenant, s.id) { s with deleted := true, phase := .destroyed }).lookup
          (caller.tenant, s.id) = some { s with deleted := true, phase := .destroyed } :=
        Keyed.lookup_put_self
      rw [Records.change_of_lookup marked, Records.put_put]
      exact .lost changed failed

theorem Settlement.state (h : Settlement caller s v t x s') (found : r.lookup (caller.tenant, s.id) = some s)
    (path : Path (Records.world f) r t r') : r.Settled caller.tenant s v r' := by
  cases h with
  | unchanged =>
    cases path
    exact .unchanged
  | undeleted changed failed e =>
    obtain ⟨_, answered, ended⟩ := Path.cons_iff.1 path
    cases ended
    have admitted : f.Admits (r.delete caller.tenant s.id) r (.error e) r' := answered
    rw [Records.delete_of_lookup found] at admitted
    obtain rfl | rfl := admitted.state
    · exact .unchanged
    · exact .deleted changed failed
  | unwritten changed prepared e =>
    obtain ⟨r₁, before, path⟩ := Path.append_iff.1 path
    obtain ⟨_, answered, ended⟩ := Path.cons_iff.1 path
    cases ended
    have admitted : f.Admits (r₁.change caller.tenant s.id v.change) r₁ (.error e) r' := answered
    exact prepared.state changed found before admitted.state
  | written changed prepared =>
    obtain ⟨r₁, before, admitted⟩ := path_written path
    exact prepared.state changed found before admitted.state

theorem run_settle_state {x : Except Error Unit × Secret} (found : r.lookup (caller.tenant, s.id) = some s)
    (h : Run (Records.world f) (settle Action.catalog Action.count caller s v) r t x r') :
    r.Settled caller.tenant s v r' :=
  (settlement_of_run h).state found h.path

/-- Whether or not a verdict is written, the secret that is left is that of its record, and in a phase that it
was in or should be in. -/
theorem Settlement.shown (h : Settlement caller s v t x s') :
    s'.id = s.id ∧ (s'.phase = s.phase ∨ s'.phase = v.phase) := by
  cases h with
  | unchanged | undeleted => exact ⟨rfl, .inl rfl⟩
  | unwritten _ prepared => exact prepared.own.imp_right .inl
  | written _ prepared => exact ⟨prepared.own.1, .inr rfl⟩

theorem run_settle_shown {σ : Type} {w : World σ} {y y' : σ} {x : Except Error Unit × Secret}
    (h : Run w (settle Action.catalog Action.count caller s v) y t x y') :
    x.2.id = s.id ∧ (x.2.phase = s.phase ∨ x.2.phase = v.phase) :=
  (settlement_of_run h).shown

end Lifecycle

namespace Custodian

variable {k : Keystore Action} {now : Instant}

/-! ## Pages -/

/-- Verdicts on records as they stand, one a record, lead where each of them does. -/
theorem run_settleAll_state {R : Records → Records → Prop} {pairs : List (Secret × Option Phase)}
    {secrets : List Secret} (refl : ∀ r, R r r) (trans : ∀ r r₁ r', R r r₁ → R r₁ r' → R r r')
    (each : ∀ p ∈ pairs, ∀ r r', r.lookup (caller.tenant, p.1.id) = some p.1 →
      r.Settled caller.tenant p.1 (p.1.assess p.2 now) r' → R r r')
    (current : ∀ p ∈ pairs, r.lookup (caller.tenant, p.1.id) = some p.1)
    (once : (pairs.map fun p => p.1.id).Nodup)
    (h : Run (Records.world f) (pairs.mapM fun p =>
      return (← Lifecycle.settle Action.catalog Action.count caller p.1 (p.1.assess p.2 now)).2 :
      Action (List Secret)) r t secrets r') : R r r' := by
  induction pairs generalizing r t secrets with
  | nil =>
    obtain ⟨-, -, rfl⟩ := Run.pure_iff.1 h
    exact refl _
  | cons p pairs ih =>
    obtain ⟨mine, others⟩ := List.forall_mem_cons.1 current
    obtain ⟨first, rest⟩ := List.forall_mem_cons.1 each
    obtain ⟨fresh, once⟩ := List.nodup_cons.1 once
    obtain ⟨_, _, r₁, _, _, rfl, -, settled, remaining⟩ := Run.mapM_mapped_cons h
    have settled := Lifecycle.run_settle_state mine settled
    refine trans _ _ _ (first _ _ mine settled) (ih rest (fun p' member => ?_) once remaining)
    have different : p'.1.id ≠ p.1.id := fun same => fresh (List.mem_map.2 ⟨p', member, same⟩)
    rw [settled.lookup_other (by simp [different])]
    exact others p' member

/-- The secrets of a page that is brought up to date are those of its records, one for one. -/
theorem run_settleAll_shown {σ : Type} {w : World σ} {y y' : σ} {pairs : List (Secret × Option Phase)}
    {secrets : List Secret}
    (h : Run w (pairs.mapM fun p =>
      return (← Lifecycle.settle Action.catalog Action.count caller p.1 (p.1.assess p.2 now)).2 :
      Action (List Secret)) y t secrets y') :
    List.Forall₂ (fun p shown => shown.id = p.1.id ∧
      (shown.phase = p.1.phase ∨ shown.phase = (p.1.assess p.2 now).phase)) pairs secrets := by
  refine (Run.mapM_forall₂ h).imp ?_
  rintro p shown ⟨_, _, _, -, settling⟩
  obtain ⟨_, _, _, _, rfl, settled, passed⟩ := Run.bind_iff.1 settling
  obtain ⟨-, rfl, -⟩ := Run.pure_iff.1 passed
  exact Lifecycle.run_settle_shown settled

/-- How a page is read that is returned: what the catalog lists is checked, and then brought up to date. -/
theorem run_readPage_listed {q : Catalog.Query} {shown : List Secret} (apart : Keystore.Apart k)
    (h : Run (Records.world f) ((Action.custodian k).readPage caller q).run r t (.ok shown) r') :
    ∃ now observed secrets t₁ t₂, t₁ <:+: t ∧
      Run (Records.world f) ((r.list caller.tenant q).mapM (Lifecycle.observe (k.check caller))) r t₁ observed
        r ∧
      Run (Records.world f) (((r.list caller.tenant q).zip observed).mapM fun p =>
        return (← Lifecycle.settle Action.catalog Action.count caller p.1 (p.1.assess p.2 now)).2 :
        Action (List Secret)) r t₂ secrets r' ∧
      shown = secrets.filter (·.phase ≠ .destroyed) := by
  cases pageRead_of_run h with
  | @settled page secrets now observed t₁ t₂ r₁ r₂ r₃ _ listed read checked settled =>
    have admitted : f.Admits (.ok (r.list caller.tenant q), r) r (.ok page) r₁ := listed
    obtain ⟨same, rfl⟩ := Prod.mk.inj admitted.ok
    obtain rfl := Except.ok.inj same
    obtain rfl : r₂ = r := read
    obtain ⟨rfl, -⟩ := run_apart (keeps_observe (apart.check caller) _) checked
    refine ⟨now, observed, secrets, t₁, t₂, ?_, checked, settled, rfl⟩
    exact ⟨[_, _], t₂, rfl⟩

end Custodian

end KeyCustody
