import KeyCustody.Proofs.Custodian.Expiry
import KeyCustody.Proofs.Custodian.Settling
import KeyCustody.Proofs.Stock

/-!
# A secret that is destroyed stays so

No path through the engine writes to a record that is destroyed, though only reads look at its phase:
what is destroyed is marked as deleted, so that deleting it again makes no difference, no verdict on it is a
change, and the catalog refuses another record under its identifier.
-/

namespace KeyCustody

open Program
open Catalog (Records)
open Time (Instant)

/-! ## Records that are destroyed -/

namespace Catalog.Records

variable {f : Fault} {r r₁ r' : Records} {tenant : Tenant} {s : Secret} {id : String}

/-- Filed records of which those that are destroyed are marked as deleted. -/
structure Final (r : Records) : Prop extends Filed r where
  deleted : ∀ p ∈ r, p.2.phase = .destroyed → p.2.deleted = true

/-- Every record that is destroyed is still there, as it was. -/
def Outlive (r r' : Records) : Prop :=
  ∀ key s, r.lookup key = some s → s.phase = .destroyed → r'.lookup key = some s

theorem final_empty : Final [] := ⟨sound_empty.toFiled, List.forall_mem_nil _⟩

theorem Final.marked (h : r.Final) (found : r.lookup (tenant, id) = some s)
    (destroyed : s.phase = .destroyed) : s.deleted = true :=
  h.deleted _ ((Keyed.lookup_eq_some_iff h.unique).1 found) destroyed

theorem Final.put (h : r.Final) (own : s.id = id) (deleted : s.phase = .destroyed → s.deleted = true) :
    (r.put (tenant, id) s).Final := by
  refine ⟨h.toFiled.put own, List.forall_mem_cons.2 ⟨deleted, fun p member => ?_⟩⟩
  exact h.deleted p (List.mem_filter.1 member).1

theorem outlive_put {key : Tenant × String}
    (same : ∀ s', r.lookup key = some s' → s'.phase = .destroyed → s' = s) : Outlive r (r.put key s) := by
  intro key' s' found destroyed
  by_cases own : key' = key
  · subst own
    rw [same s' found destroyed]
    exact Keyed.lookup_put_self
  · rw [← found]
    exact Keyed.lookup_put_other own

theorem Final.create {now : Instant} (h : r.Final) (standing : s.phase ≠ .destroyed) :
    (r.create tenant now s).2.Final ∧ Outlive r (r.create tenant now s).2 := by
  obtain ⟨_, same⟩ | ⟨_, same, free, rfl⟩ := create_cases tenant now s r
  · rw [same]
    exact ⟨h, fun _ _ found _ => found⟩
  · rw [same]
    refine ⟨h.put rfl fun destroyed => absurd destroyed standing, outlive_put fun s' found => ?_⟩
    cases free.symm.trans found

/-- Marking a record again that is destroyed makes no difference to it. -/
theorem Final.delete (h : r.Final) :
    (r.delete tenant id).2.Final ∧ Outlive r (r.delete tenant id).2 := by
  cases found : r.lookup (tenant, id) with
  | none =>
    unfold Records.delete
    rw [found]
    exact ⟨h, fun _ _ found _ => found⟩
  | some s =>
    rw [delete_of_lookup found]
    have own : s.id = id := h.of_lookup found
    refine ⟨h.put own fun _ => rfl, outlive_put fun s' found' destroyed => ?_⟩
    obtain rfl := Option.some.inj (found.symm.trans found')
    have deleted := h.marked found destroyed
    cases s
    congr

end Catalog.Records

/-- A verdict that changes a record is that it is destroyed only if there will be no material, or if the
record is marked as deleted. -/
theorem Secret.assess_destroyed_of_changed {s : Secret} {observed : Option Phase} {now : Instant}
    (changed : (s.assess observed now).changed = true) :
    s.phase ≠ .destroyed ∧ ((s.assess observed now).phase = .destroyed →
      (s.assess observed now).generationFailed = true ∨ s.deleted = true) := by
  have finding := finding_assess s observed now
  have standing := finding.standing changed
  refine ⟨standing, fun destroyed => ?_⟩
  cases failed : (s.assess observed now).generationFailed with
  | true => exact .inl rfl
  | false => exact .inr (finding.of_destroyed destroyed standing failed).1

namespace Catalog.Records

variable {r r' : Records} {tenant : Tenant} {s : Secret} {observed : Option Phase} {now : Instant}

theorem Final.settled (h : r.Final) (found : r.lookup (tenant, s.id) = some s)
    (settled : r.Settled tenant s (s.assess observed now) r') : r'.Final ∧ Outlive r r' := by
  have alive : (s.assess observed now).changed = true → ∀ s', Outlive r (r.put (tenant, s.id) s') := by
    intro changed s'
    refine outlive_put fun s₁ found₁ destroyed => ?_
    obtain rfl := Option.some.inj (found.symm.trans found₁)
    exact absurd destroyed (Secret.assess_destroyed_of_changed changed).1
  cases settled with
  | unchanged => exact ⟨h, fun _ _ found _ => found⟩
  | entered changed well =>
    refine ⟨h.put rfl fun destroyed => ?_, alive changed _⟩
    obtain failed | deleted := (Secret.assess_destroyed_of_changed changed).2 destroyed
    · rw [well] at failed
      cases failed
    · exact deleted
  | deleted changed | lost changed => exact ⟨h.put rfl fun _ => rfl, alive changed _⟩

end Catalog.Records

/-! ## Identifiers that are issued -/

section
variable {t : Trace} {tries left : Nat} {tenant : Tenant} {caller : Caller} {e : Registry.Entry} {s : Secret}
  {id : String}

/-- Only an identifier that was drawn is allocated. -/
theorem Registry.drawn_of_allocateWithin
    (h : Run free (allocateWithin tries Action.registry (Call.candidates Action.make tries).draw tenant e
      left).run () t (.ok id) ()) : ⟨.drawIdentifier, id⟩ ∈ t := by
  induction left generalizing t with
  | zero =>
    obtain ⟨-, same, -⟩ := Run.throw_iff.1 h
    cases same
  | succ left ih =>
    unfold allocateWithin at h
    obtain ⟨_, candidate, _, _, rfl, drew, looked⟩ := Run.bind_iff.1 h
    obtain ⟨rfl, -⟩ := Run.ask_iff.1 drew
    obtain ⟨_, x, _, _, rfl, -, ended⟩ := Run.bind_iff.1 looked
    cases x with
    | ok _ => exact List.mem_append_right _ (List.mem_append_right _ (ih ended))
    | error error =>
      by_cases free : error.isNotFound = true
      · simp only [free, if_true] at ended
        obtain ⟨x, same, -⟩ := Run.mapped_iff.1 ended
        cases x with
        | error _ => cases same
        | ok _ =>
          obtain rfl := Except.ok.inj same
          exact List.mem_append_left _ List.mem_cons_self
      · simp only [free, Bool.false_eq_true, if_false] at ended
        obtain ⟨-, same, -⟩ := Run.pure_iff.1 ended
        cases same

namespace Keystore

/-- A creation is issued only an identifier that was drawn for it. -/
def IssuesDrawn (p : Action (Creation Action)) : Prop :=
  ∀ t created id, Run free p () t created () → created.result = .ok id → ⟨.drawIdentifier, id⟩ ∈ t

namespace IssuesDrawn

variable {ledger : Ledger Action} {material : Sealed}

theorem bind {α : Type} {p : Action α} {f : α → Action (Creation Action)} (rest : ∀ a, IssuesDrawn (f a)) :
    IssuesDrawn (p >>= f) := by
  intro t created id h issued
  obtain ⟨_, a, _, _, rfl, -, last⟩ := Run.bind_iff.1 h
  exact List.mem_append_right _ (rest a _ _ _ last issued)

theorem refused {error : Error} : IssuesDrawn (pure ⟨.error error, s, ledger⟩) := by
  intro t created id h issued
  obtain ⟨-, rfl, -⟩ := Run.pure_iff.1 h
  cases issued

theorem allocated {f : Except Error String → Action (Creation Action)}
    (ends : ∀ x, ∃ s ledger, f x = pure ⟨x, s, ledger⟩) :
    IssuesDrawn ((Action.registry.allocate (Call.candidates Action.make tries) tenant e).run >>= f) := by
  intro t created id h issued
  obtain ⟨_, x, _, _, rfl, allocated, last⟩ := Run.bind_iff.1 h
  obtain ⟨s, ledger, same⟩ := ends x
  rw [same] at last
  obtain ⟨-, rfl, -⟩ := Run.pure_iff.1 last
  obtain rfl : x = .ok id := issued
  exact List.mem_append_left _ (Registry.drawn_of_allocateWithin allocated)

theorem keep : IssuesDrawn (InMemory.keep Action.registry (Call.vault Action.make) (Call.fresh Action.make)
    (Call.candidates Action.make tries) caller s material ledger) := by
  exact bind fun ref => bind fun _ => allocated fun x => by cases x <;> exact ⟨_, _, rfl⟩

theorem memoryKeystore : IssuesDrawn ((Action.memoryKeystore tries).create caller s .empty) := by
  show IssuesDrawn (InMemory.create Action.registry (Call.vault Action.make) (Call.fresh Action.make)
    (Call.candidates Action.make tries) caller s .empty)
  unfold InMemory.create
  cases s.material? with
  | some _ => exact keep
  | none =>
    cases s.keyParameters with
    | error _ => exact refused
    | ok _ => exact bind fun _ => keep

theorem barbicanKeystore : IssuesDrawn ((Action.barbicanKeystore tries).create caller s .empty) := by
  show IssuesDrawn (Networked.create Action.registry (Call.barbican Action.make)
    (Call.candidates Action.make tries) caller s .empty)
  unfold Networked.create Networked.order
  cases s.material? with
  | some _ =>
    refine bind fun x => ?_
    cases x with
    | error _ => exact refused
    | ok _ => exact allocated fun x => by cases x <;> exact ⟨_, _, rfl⟩
  | none =>
    cases s.keyParameters with
    | error _ => exact refused
    | ok _ =>
      refine bind fun x => ?_
      cases x with
      | error _ => exact refused
      | ok _ => exact allocated fun x => by cases x <;> exact ⟨_, _, rfl⟩

theorem of_either {k : Keystore Action}
    (either : k = Action.memoryKeystore tries ∨ k = Action.barbicanKeystore tries) :
    IssuesDrawn (k.create caller s .empty) := by
  obtain rfl | rfl := either
  · exact memoryKeystore
  · exact barbicanKeystore

end IssuesDrawn

end Keystore

end

/-! ## Requests -/

namespace Custodian

variable {f : Fault} {k : Keystore Action} {r r' : Records} {t : Trace} {caller : Caller} {tenant : Tenant}
  {id : String} {s : Secret}

/-- What requests keep: what is destroyed stays as it is. -/
def Lasting (r r' : Records) : Prop := r.Final → r'.Final ∧ r.Outlive r'

theorem lasting_refl (r : Records) : Lasting r r := fun final => ⟨final, fun _ _ found _ => found⟩

theorem Lasting.trans {r₁ : Records} (first : Lasting r r₁) (rest : Lasting r₁ r') : Lasting r r' := by
  intro final
  obtain ⟨final₁, outlive₁⟩ := first final
  obtain ⟨final', outlive'⟩ := rest final₁
  exact ⟨final', fun key s found destroyed => outlive' key s (outlive₁ key s found destroyed) destroyed⟩

theorem lasting_of_same (same : r' = r) : Lasting r r' := same ▸ lasting_refl r

/-- Whatever the program is answered, what is destroyed stays as it is. -/
def Lasts (f : Fault) {α : Type} (p : Action α) : Prop :=
  Respects (Records.world f) (fun r _ r' => Lasting r r') p

theorem chains_lasting : Chains fun r (_ : Trace) r' => Lasting r r' := ⟨lasting_refl, .trans⟩

theorem lasts_apart {α : Type} {p : Action α} (apart : Action.LeavesCatalog p) : Lasts f p :=
  fun _ _ _ _ h => lasting_of_same (run_apart apart h).1

theorem lasting_update {observed : Option Phase} {x : Except Error Secret}
    (found : r.lookup (caller.tenant, s.id) = some s)
    (h : Run (Records.world f) ((Action.custodian k).update caller s observed).run r t x r') :
    Lasting r r' := by
  intro final
  obtain ⟨_, now, r, _, rfl, asked, settled⟩ := Run.bind_iff.1 h
  obtain ⟨rfl, rfl⟩ := Run.ask_iff.1 asked
  obtain ⟨_, _, _, _, rfl, settled, passed⟩ := Run.bind_iff.1 settled
  obtain ⟨-, -, rfl⟩ := Run.pure_iff.1 passed
  exact final.settled found (Lifecycle.run_settle_state found settled)

theorem lasts_read (apart : Keystore.Apart k) : Lasts f ((Action.custodian k).read caller id).run := by
  intro r t x r' h final
  obtain ⟨_, -, looked⟩ | ⟨_, s, _, _, rfl, looked, ended⟩ := Run.bindExcept_iff.1 h
  · exact lasting_of_same (run_find looked).1 final
  obtain ⟨rfl, found⟩ := run_find looked
  have found := found s rfl
  obtain rfl : s.id = id := final.of_lookup found
  by_cases destroyed : s.phase = .destroyed
  · rw [if_pos destroyed] at ended
    obtain ⟨-, -, same⟩ := Run.pureExcept_iff.1 ended
    exact lasting_of_same same final
  rw [if_neg destroyed] at ended
  by_cases deleted : s.deleted = true
  · rw [if_pos deleted] at ended
    exact lasting_update found ended final
  rw [if_neg deleted] at ended
  obtain ⟨_, -, seen⟩ | ⟨_, _, _, _, rfl, seen, updated⟩ := Run.bindExcept_iff.1 ended
  · exact lasts_apart (apart.payload caller s.id) _ _ _ _ seen final
  obtain ⟨rfl, -⟩ := run_apart (apart.payload caller s.id) seen
  obtain ⟨_, -, stopped⟩ | ⟨_, _, _, _, rfl, settled, passed⟩ := Run.bindExcept_iff.1 updated
  · exact lasting_update found stopped final
  · obtain ⟨-, -, rfl⟩ := Run.pureExcept_iff.1 passed
    exact lasting_update found settled final

theorem lasts_readPage {q : Catalog.Query} (apart : Keystore.Apart k) :
    Lasts f ((Action.custodian k).readPage caller q).run := by
  intro r t x r' h final
  cases paged_of_run h with
  | malformed => exact lasting_refl r final
  | unlisted refused =>
    have admitted : f.Admits (.ok (r.list caller.tenant q), r) r _ r' := refused
    exact lasting_of_same admitted.lookup.1 final
  | @settled page _ _ _ _ _ r₁ _ _ _ listed read checked settled =>
    have admitted : f.Admits (.ok (r.list caller.tenant q), r) r (.ok page) r₁ := listed
    obtain ⟨same, rfl⟩ := Prod.mk.inj admitted.ok
    obtain rfl := Except.ok.inj same
    obtain rfl := read
    obtain ⟨rfl, -⟩ := run_apart (keeps_observe (apart.check caller) _) checked
    obtain ⟨current, once⟩ := final.toFiled.list caller.tenant q
    refine run_settleAll_state lasting_refl (fun _ _ _ => .trans) ?_ ?_ (nodup_zip once) settled final
    · exact fun p _ r r' found settled final => final.settled found settled
    · exact fun p member => (current p.1 (List.of_mem_zip member).1).1

/-- The record of a creation is in use or waits, whether or not it is stored. -/
theorem lasting_filed {created : Keystore.Creation Action} {secret : Secret} {now : Instant}
    {x : Except Error Secret} (fits : created.Fits secret) (issued : created.result = .ok id)
    (h : Records.world f (.createRecord caller { created.secret with id := id, creation := some now })
      r x r') : Lasting r r' := by
  intro final
  obtain ⟨time, admitted⟩ := h
  have standing : created.secret.phase ≠ .destroyed := by
    rcases fits.entered id issued with ⟨phase, -⟩ | ⟨phase, -⟩
    · simp [phase]
    · simp [phase]
  rcases admitted.state with same | same
  · exact lasting_of_same same final
  · rw [same]
    exact final.create standing

theorem lasts_place {secret : Secret} (apart : Keystore.Apart k) :
    Lasts f ((Action.custodian k).place caller secret) := by
  intro r t x r' h
  obtain ⟨_ | last, ledger⟩ := x
  · cases run_place_error h with
    | invalid => exact lasting_refl r
    | refused made _ undone =>
      obtain ⟨rfl, fits⟩ := run_apart (apart.create caller _) made
      exact lasts_apart (keeps_rollBack (fun _ => rfl) fits.undo) _ _ _ _ undone
    | unrecorded made issued own read declined undone =>
      obtain ⟨rfl, fits⟩ := run_apart (apart.create caller _) made
      obtain rfl := read
      subst own
      obtain ⟨rfl, -⟩ := run_apart (keeps_rollBack (fun _ => rfl) fits.undo) undone
      exact lasting_filed fits issued declined
  · obtain ⟨created, id, now, stored, _, _, _, _, _, -, made, issued, asked, sent, -⟩ := run_place_stored h
    obtain ⟨rfl, fits⟩ := run_apart (apart.create caller _) made
    obtain ⟨-, rfl⟩ := Run.ask_iff.1 asked
    exact lasting_filed fits issued (Run.ask_iff.1 sent).2

theorem lasts_remove {whole : Bool} {ledger : Ledger Action} (apart : Keystore.Apart k) :
    Lasts f ((Action.custodian k).remove caller id whole ledger) := by
  have marked : Lasts f (Action.catalog.delete caller id).run := by
    refine .ask fun r x r' answered final => ?_
    have admitted : f.Admits (r.delete caller.tenant id) r x r' := answered
    rcases admitted.state with same | same
    · exact lasting_of_same same final
    · rw [same]
      exact final.delete
  refine .bind chains_lasting (lasts_apart (keeps_observeLast (apart.payload caller id) whole)) fun x => ?_
  cases x with
  | error _ => exact .pure chains_lasting _
  | ok _ =>
    refine .bind chains_lasting (lasts_apart (apart.delete caller id _)) fun y => ?_
    obtain ⟨_ | _, _⟩ := y
    · exact .pure chains_lasting _
    · exact .bind chains_lasting marked fun _ => .pure chains_lasting _

theorem lasts_perform {q : Request} (apart : Keystore.Apart k) : Lasts f ((Action.custodian k).perform q) := by
  refine respects_perform chains_lasting ?_ ?_ ?_ ?_ ?_ ?_
  · exact fun _ => lasts_apart (.make rfl)
  · exact fun _ _ _ _ => lasts_place apart
  · exact fun _ => lasts_read apart
  · exact fun _ => lasts_readPage apart
  · refine fun _ => .ask fun r x r' answered => ?_
    have admitted : f.Admits (.ok (r.total q.caller.tenant), r) r x r' := answered
    exact lasting_of_same admitted.lookup.1
  · exact fun _ _ => lasts_remove apart

theorem lasts_performAll {requests : List Request} (apart : Keystore.Apart k) :
    Lasts f ((Action.custodian k).performAll requests) :=
  .mapM chains_lasting fun _ _ => lasts_perform apart

/-! ## Replies -/

/-- A record that is there is found, unless the lookup fails. -/
theorem run_find_known {x : Except Error Secret} (found : r.lookup (caller.tenant, id) = some s)
    (h : Run (Records.world f) ((Action.custodian k).find caller id).run r t x r') :
    r' = r ∧ ∃ y : Except Error (Option Secret), t = [⟨.getRecord caller id, y⟩] ∧
      ((∃ e, y = .error e ∧ x = .error e) ∨ y = .ok (some s) ∧ x = .ok s) := by
  have looked : ∀ {t y r₁}, Run (Records.world f) (Action.catalog.get caller id).run r t y r₁ →
      t = [⟨.getRecord caller id, y⟩] ∧ r₁ = r ∧ ∀ record, y = .ok record → record = some s := by
    intro t y r₁ asked
    obtain ⟨rfl, answered⟩ := Run.ask_iff.1 asked
    have admitted : f.Admits (.ok (r.get caller.tenant id), r) r y r₁ := answered
    refine ⟨rfl, admitted.lookup.1, ?_⟩
    rintro record rfl
    exact (Except.ok.inj (congrArg Prod.fst admitted.ok)).symm.trans found
  obtain ⟨e, rfl, asked⟩ | ⟨_, record, _, _, rfl, asked, ended⟩ := Run.bindExcept_iff.1 h
  · obtain ⟨rfl, rfl, -⟩ := looked asked
    exact ⟨rfl, _, rfl, .inl ⟨e, rfl, rfl⟩⟩
  · obtain ⟨rfl, rfl, known⟩ := looked asked
    obtain rfl := known record rfl
    obtain ⟨rfl, rfl, rfl⟩ := Run.pureExcept_iff.1 ended
    exact ⟨rfl, _, rfl, .inr ⟨rfl, rfl⟩⟩

/-- A fetch of a secret that is destroyed only looks its record up. -/
theorem run_fetch_destroyed {reply : Except Error Reply} (found : r.lookup (caller.tenant, id) = some s)
    (destroyed : s.phase = .destroyed)
    (h : Run (Records.world f) ((Action.custodian k).perform (.fetch caller id)) r t reply r') :
    r' = r ∧ ∃ x : Except Error (Option Secret),
      t = [⟨.getRecord caller id, x⟩, ⟨.count (.operation "get" reply.isOk), ()⟩] ∧
      ∀ record, x = .ok record → reply = .ok (.secret s) := by
  obtain ⟨x, rfl, fetched⟩ := Run.mapped_iff.1 h
  obtain ⟨u, r₁, rfl, read, rfl⟩ := run_counted_iff.1 fetched
  have counted : (x.map Reply.secret).isOk = x.isOk := by cases x <;> rfl
  rw [counted]
  obtain ⟨e, rfl, looked⟩ | ⟨_, record, _, _, rfl, looked, ended⟩ := Run.bindExcept_iff.1 read
  · obtain ⟨rfl, y, rfl, ⟨_, rfl, -⟩ | ⟨-, same⟩⟩ := run_find_known found looked
    · exact ⟨rfl, _, rfl, fun _ same => by cases same⟩
    · cases same
  · obtain ⟨rfl, y, rfl, ⟨_, -, same⟩ | ⟨rfl, same⟩⟩ := run_find_known found looked
    · cases same
    · obtain rfl := Except.ok.inj same
      rw [if_pos destroyed] at ended
      obtain ⟨rfl, rfl, rfl⟩ := Run.pureExcept_iff.1 ended
      exact ⟨rfl, _, rfl, fun _ _ => rfl⟩

/-- The secrets of a page are those of records that were listed. -/
theorem run_list_shown {q : Catalog.Query} {secrets : List Secret} (apart : Keystore.Apart k)
    (h : Run (Records.world f) ((Action.custodian k).perform (.list caller q)) r t (.ok (.page secrets)) r') :
    ∀ shown ∈ secrets, ∃ s ∈ r.list caller.tenant q, shown.id = s.id := by
  obtain ⟨y, same, listed⟩ := Run.mapped_iff.1 h
  cases y with
  | error _ => cases same
  | ok page =>
    obtain rfl := Reply.page.inj (Except.ok.inj same)
    obtain ⟨u, r₁, -, read, -⟩ := run_counted_iff.1 listed
    obtain ⟨now, observed, settled, _, _, -, -, written, rfl⟩ := run_readPage_listed apart read
    intro shown member
    obtain ⟨n, bound, rfl⟩ := List.getElem_of_mem (List.mem_filter.1 member).1
    have each := run_settleAll_shown written
    have within : n < ((r.list caller.tenant q).zip observed).length := each.length_eq ▸ bound
    have paired := List.getElem_mem within
    exact ⟨_, (List.of_mem_zip paired).1, (each.get within bound).1⟩

/-- No page shows a secret whose record is marked as deleted. -/
theorem run_list_unmarked {q : Catalog.Query} {secrets : List Secret} (apart : Keystore.Apart k) (filed : r.Filed)
    (found : r.lookup (caller.tenant, id) = some s) (deleted : s.deleted = true)
    (h : Run (Records.world f) ((Action.custodian k).perform (.list caller q)) r t (.ok (.page secrets)) r') :
    ∀ shown ∈ secrets, shown.id ≠ id := by
  intro shown member same
  obtain ⟨s', among, own⟩ := run_list_shown apart h shown member
  obtain ⟨current, live⟩ := (filed.list caller.tenant q).1 s' among
  rw [← own, same, found] at current
  rw [← Option.some.inj current, deleted] at live
  cases live

theorem id_releaseTo {stored submitted : Secret} : (releaseTo stored submitted).id = stored.id := by
  unfold releaseTo
  split_ifs <;> rfl

/-- A creation that succeeds has had its keystore issue an identifier that no record had, and has filed
the secret as the keystore left it. Its other calls are the last three. -/
theorem run_create_filed {σ : Type} {V : World σ} {y y' : σ} {secret shown : Secret} {whole : Bool}
    (apart : Keystore.Apart k)
    (h : Run (both V (Records.world f)) ((Action.custodian k).perform (.create caller secret whole)) (y, r) t
      (.ok (.secret shown)) (y', r')) :
    ∃ created id now record t₁ t₂ y₁, t = t₁ ++ t₂ ∧
      Run (both V (Records.world f)) (k.create caller { secret with name := Text.trim secret.name } .empty)
        (y, r) t₁ created (y₁, r) ∧
      created.result = .ok id ∧ r.lookup (caller.tenant, id) = none ∧
      record = { created.secret with id := id, payload := none, creation := some now } ∧
      r' = r.put (caller.tenant, id) record ∧
      Path V y₁ t₂ y' ∧ t₂ = [⟨.now, now⟩,
        ⟨.createRecord caller { created.secret with id := id, creation := some now }, .ok record⟩,
        ⟨.count (.operation "create" true), ()⟩] ∧
      shown.id = id := by
  obtain ⟨x, same, made⟩ := Run.mapped_iff.1 h
  cases x with
  | error _ => cases same
  | ok _ =>
    obtain rfl := Reply.secret.inj (Except.ok.inj same)
    obtain ⟨u, ⟨y₄, r₄⟩, rfl, request, counted, last⟩ := run_counted_iff.1 made
    obtain rfl : r' = r₄ := last
    obtain ⟨_, ⟨x, ledger⟩, _, _, rfl, placed, passed⟩ := Run.bind_iff.1 request
    obtain ⟨rfl, same, rfl⟩ := Run.pure_iff.1 passed
    cases x with
    | error _ => cases same
    | ok _ =>
      obtain ⟨created, id, now, record, t₁, ⟨y₁, r₁⟩, _, ⟨y₂, r₂⟩, _, rfl, kept, issued, asked, sent, rfl⟩ :=
        run_place_stored placed
      obtain rfl : r₁ = r := (run_apart (apart.create caller _) kept.right).1
      obtain ⟨rfl, read, same⟩ := Run.ask_iff.1 asked
      obtain rfl : r₂ = r₁ := same
      obtain ⟨rfl, filed, time, admitted⟩ := Run.ask_iff.1 sent
      obtain ⟨_, refused⟩ | ⟨_, accepted, unused, rfl⟩ := Records.create_cases caller.tenant time
        { created.secret with id := id, creation := some now } r₂
      · cases admitted.ok.symm.trans refused
      obtain ⟨own, rfl⟩ := Prod.mk.inj (admitted.ok.symm.trans accepted)
      obtain rfl := Except.ok.inj own
      refine ⟨created, id, now, _, t₁, _, y₁, ?_, kept, issued, unused, rfl, rfl,
        .cons read (.cons filed (.cons counted (.nil _))), rfl, ?_⟩
      · simp only [List.append_nil, List.append_assoc]
        rfl
      · rw [Except.ok.inj same]
        cases whole with
        | false => exact id_releaseTo
        | true => exact id_releaseTo

/-- A creation bears an identifier that was drawn for it, and that no record had. -/
theorem run_create_identifier {secret stored : Secret} {whole : Bool} (apart : Keystore.Apart k)
    (issues : ∀ s, Keystore.IssuesDrawn (k.create caller s .empty))
    (h : Run (Records.world f) ((Action.custodian k).perform (.create caller secret whole)) r t
      (.ok (.secret stored)) r') :
    ⟨.drawIdentifier, stored.id⟩ ∈ t ∧ r.lookup (caller.tenant, stored.id) = none := by
  have beside : Run (both free (Records.world f)) _ ((), r) t _ ((), r') :=
    h.map (fun r => ((), r)) fun _ _ _ _ answered => ⟨trivial, answered⟩
  obtain ⟨created, id, now, record, t₁, t₂, _, rfl, made, issued, unused, -, -, -, -, rfl⟩ :=
    run_create_filed apart beside
  exact ⟨List.mem_append_left _ (issues _ t₁ created _ made.left issued), unused⟩

/-- Whatever is requested of a custodian over either keystore, and whatever its collaborators answer or
fail at, with or without effect. Once the record of a secret is destroyed, it is the same after any further
requests. A fetch looks it up and makes no other call, and returns it if that succeeds; it holds no material.
No page shows it. A creation that succeeds bears another identifier, one of those drawn for it, so one for
which this identifier is drawn alone fails. -/
theorem destruction_is_final {tries : Nat} {requests later : List Request} {xs ys : List (Except Error Reply)}
    {u : Trace} (either : k = Action.memoryKeystore tries ∨ k = Action.barbicanKeystore tries)
    (h : Run (Records.world .any) ((Action.custodian k).performAll requests) [] t xs r)
    (found : r.lookup (tenant, id) = some s) (destroyed : s.phase = .destroyed)
    (after : Run (Records.world .any) ((Action.custodian k).performAll later) r u ys r') :
    r'.lookup (tenant, id) = some s ∧ s.payload = none ∧ s.deleted = true ∧
      ∀ caller, caller.tenant = tenant →
        (∀ v reply r'', Run (Records.world .any) ((Action.custodian k).perform (.fetch caller id)) r' v
          reply r'' → ∃ x : Except Error (Option Secret),
            v = [⟨.getRecord caller id, x⟩, ⟨.count (.operation "get" reply.isOk), ()⟩] ∧
            ∀ record, x = .ok record → reply = .ok (.secret s)) ∧
        (∀ q v secrets r'', Run (Records.world .any) ((Action.custodian k).perform (.list caller q)) r' v
          (.ok (.page secrets)) r'' → ∀ shown ∈ secrets, shown.id ≠ id) ∧
        ∀ secret whole v stored r'', Run (Records.world .any)
          ((Action.custodian k).perform (.create caller secret whole)) r' v (.ok (.secret stored)) r'' →
            ⟨.drawIdentifier, stored.id⟩ ∈ v ∧ stored.id ≠ id := by
  have apart := Keystore.apart_of_either either
  obtain ⟨final, -⟩ := lasts_performAll apart _ _ _ _ h Records.final_empty
  obtain ⟨-, bare⟩ := Records.filed_bare ⟨Records.sound_empty.toFiled, List.forall_mem_nil _⟩ h
  obtain ⟨final', outlive⟩ := lasts_performAll apart _ _ _ _ after final
  have found' := outlive _ s found destroyed
  have deleted := final.marked found destroyed
  refine ⟨found', bare.of_lookup found, deleted, ?_⟩
  rintro caller rfl
  refine ⟨fun v reply r'' fetched => (run_fetch_destroyed found' destroyed fetched).2,
    fun q v secrets r'' listed => run_list_unmarked apart final'.toFiled found' deleted listed,
    fun secret whole v stored r'' made => ?_⟩
  obtain ⟨drew, unused⟩ := run_create_identifier apart (fun _ => .of_either either) made
  refine ⟨drew, ?_⟩
  rintro rfl
  cases found'.symm.trans unused

/-- A record was looked up, and the lookup answered. -/
def looksUp : Event → Bool
  | ⟨.getRecord .., .ok _⟩ => true
  | _ => false

/-- A secret is destroyed, and its identifier drawn again for two creations. -/
theorem destruction_is_final_of_reuse :
    let caller : Caller := ⟨⟨"s", "o"⟩, "c", none⟩
    let secret : Secret := { Secret.named "key" with payload := some ⟨"material"⟩ }
    let c := Action.custodian (Action.memoryKeystore 1)
    let y := ((c.performAll [.create caller secret true, .destroy caller "k" false]).run
      (Depot.answer unissued) ⟨⟨.map [], []⟩, [], 0⟩).2
    let y' := ((c.performAll [.create caller secret true, .destroy caller "k" true,
      .create caller { secret with deleted := true } false]).run (Depot.answer unissued) y).2
    ∃ s, y.records.lookup (caller.tenant, "k") = some s ∧ s.phase = .destroyed ∧
      y'.records.lookup (caller.tenant, "k") = some s ∧ s.payload = none ∧
      ((c.perform (.fetch caller "k")).run (Depot.answer unissued) y').1 = .ok (.secret s) := by
  intro caller secret c y y'
  have before : Run (Depot.world unissued) (c.performAll _) _ _ _ y :=
    Run.of_answers (Depot.world_answer unissued) _ _
  have later : Run (Depot.world unissued) (c.performAll _) y _ _ y' :=
    Run.of_answers (Depot.world_answer unissued) _ _
  have fetched := Run.of_answers (Depot.world_answer unissued) (c.perform (.fetch caller "k")) y'
  have marked : (y.records.lookup (caller.tenant, "k")).map Secret.phase = some .destroyed := by
    decide +kernel
  have looked : ((c.perform (.fetch caller "k")).trace (Depot.answer unissued) y').head?.map looksUp =
      some true := by decide +kernel
  clear_value y y'
  obtain ⟨s, found, destroyed⟩ := Option.map_eq_some_iff.1 marked
  obtain ⟨stays, bare, -, replies⟩ := destruction_is_final (.inl rfl) (Depot.run_records before) found
    destroyed (Depot.run_records later)
  obtain ⟨x, made, reply⟩ := (replies caller rfl).1 _ _ _ (Depot.run_records fetched)
  refine ⟨s, found, destroyed, stays, bare, ?_⟩
  rw [made] at looked
  cases x with
  | error _ => cases looked
  | ok record => exact reply record rfl

end Custodian

end KeyCustody
