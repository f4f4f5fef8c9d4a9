import KeyCustody.Proofs.Catalog.Listing
import KeyCustody.Proofs.Custodian.Finality
import KeyCustody.Proofs.Custodian.InStep
import KeyCustody.Proofs.Retry

/-!
# What has been created is listed

A secret that has been created counts, and is on one of the pages that list all secrets, once: unless it
was submitted as deleted. That flag is the only one of a record's lifecycle which a creation takes over.
-/

namespace KeyCustody

open Program
open Catalog (Records)
open Time (Instant)

variable {tries : Nat} {f : Fault} {k : Keystore Action} {caller reader : Caller} {tenant : Tenant} {id : String}
  {r r' : Records} {t : Trace} {s : Secret}

/-! ## Records that no one deletes -/

/-- A call to mark the record of an identifier as deleted. -/
def Call.deletes (tenant : Tenant) (id : String) : Call → Bool
  | .deleteRecord caller id' => caller.tenant = tenant && id' = id
  | _ => false

namespace Catalog.Records

variable {b : Bool}

/-- Putting a record leaves the flag of another, and its own if that is the same. -/
theorem flag_put {key : Tenant × String} (known : (r.lookup (tenant, id)).map Secret.deleted = some b)
    (same : key = (tenant, id) → s.deleted = b) :
    ((r.put key s).lookup (tenant, id)).map Secret.deleted = some b := by
  by_cases own : (tenant, id) = key
  · subst own
    rw [lookup_put_self]
    exact congrArg some (same rfl)
  · rwa [lookup_put_other own]

theorem flag_world {c : Call} {a : c.Answer} (known : (r.lookup (tenant, id)).map Secret.deleted = some b)
    (spared : c.deletes tenant id = false)
    (answered : Records.world f c r a r') : (r'.lookup (tenant, id)).map Secret.deleted = some b := by
  cases c with
  | createRecord caller s =>
    obtain ⟨now, admitted⟩ := answered
    rcases admitted.state with rfl | rfl
    · exact known
    obtain ⟨_, same⟩ | ⟨stored, same, unused, -⟩ := create_cases caller.tenant now s r
    · rwa [same]
    · rw [same]
      refine flag_put known fun own => ?_
      rw [← own, unused] at known
      cases known
  | changeRecord caller id' change =>
    have admitted : f.Admits (r.change caller.tenant id' change) r a r' := answered
    rcases admitted.state with rfl | rfl
    · exact known
    cases found : r.lookup (caller.tenant, id') with
    | none =>
      unfold Records.change
      rwa [found]
    | some s =>
      rw [change_of_lookup found]
      refine flag_put known fun own => ?_
      rw [← own, found] at known
      exact Option.some.inj known
  | deleteRecord caller id' =>
    have admitted : f.Admits (r.delete caller.tenant id') r a r' := answered
    rcases admitted.state with rfl | rfl
    · exact known
    cases found : r.lookup (caller.tenant, id') with
    | none =>
      unfold Records.delete
      rwa [found]
    | some s =>
      rw [delete_of_lookup found]
      refine flag_put known fun own => ?_
      obtain ⟨rfl, rfl⟩ := Prod.mk.inj own
      simp [Call.deletes] at spared
  | getRecord | listRecords | totalRecords =>
    have admitted : f.Admits (_, r) r a r' := answered
    rwa [admitted.lookup.1]
  | _ =>
    obtain rfl : r' = r := answered
    exact known

end Catalog.Records

/-! ## Keystores that find no generation failed -/

/-- An answer from which a keystore takes it that there will be no material. -/
def condemns : Event → Bool
  | ⟨.checkOrder .., .ok (.failed _)⟩ => true
  | ⟨.findMaterial _, none⟩ => true
  | _ => false

section
variable {σ : Type} {w : World σ} {y y' : σ}

theorem Keystore.InMemory.condemned_of_check
    (h : Run w ((Action.memoryKeystore tries).check caller id).run y t (.ok .destroyed) y') :
    ∃ v ∈ t, condemns v = true := by
  obtain ⟨_, ref, _, _, rfl, -, found⟩ := Run.bindExcept_ok_iff.1 h
  obtain ⟨_, material, _, _, rfl, asked, ended⟩ := Run.bindLift_iff.1 found
  obtain ⟨rfl, -⟩ := Run.ask_iff.1 asked
  cases material with
  | none => exact ⟨⟨.findMaterial ref, none⟩, by simp, rfl⟩
  | some _ =>
    obtain ⟨-, same, -⟩ := Run.pureExcept_iff.1 ended
    cases same

theorem Keystore.Networked.condemned_of_check
    (h : Run w ((Action.barbicanKeystore tries).check caller id).run y t (.ok .destroyed) y') :
    ∃ v ∈ t, condemns v = true := by
  obtain ⟨_, found, _, _, rfl, looked, ended⟩ := Run.bindExcept_ok_iff.1 h
  obtain ⟨_, e, _, _, rfl, -, resolved⟩ := Run.bindExcept_ok_iff.1 looked
  cases found with
  | ready | pending =>
    obtain ⟨-, same, -⟩ := Run.pureExcept_iff.1 ended
    cases same
  | failed =>
    unfold resolve at resolved
    cases pending : e.pending? with
    | none =>
      simp only [pending] at resolved
      obtain ⟨-, same, -⟩ := Run.pureExcept_iff.1 resolved
      cases same
    | some order =>
      simp only [pending] at resolved
      obtain ⟨_, status, _, _, rfl, polled, told⟩ := Run.bindExcept_ok_iff.1 resolved
      have answered := Ran.of_ask (Retry.ran_of_attempts polled)
      cases status with
      | failed reason => exact ⟨⟨.checkOrder caller order, .ok (.failed reason)⟩, by simp [answered], rfl⟩
      | pending =>
        obtain ⟨-, same, -⟩ := Run.pureExcept_iff.1 told
        cases same
      | active ref =>
        obtain ⟨_, _, _, _, rfl, -, passed⟩ := Run.bindLift_iff.1 told
        obtain ⟨-, same, -⟩ := Run.pureExcept_iff.1 passed
        cases same

theorem Keystore.condemned_of_check
    (either : k = Action.memoryKeystore tries ∨ k = Action.barbicanKeystore tries)
    (h : Run w (k.check caller id).run y t (.ok .destroyed) y') : ∃ v ∈ t, condemns v = true := by
  rcases either with rfl | rfl
  · exact InMemory.condemned_of_check h
  · exact Networked.condemned_of_check h

end

namespace Custodian

/-! ## Pages -/

/-- A page that nothing fails in is returned, if it is asked for as it should be. -/
theorem run_readPage_answered {q : Catalog.Query} {x : Except Error (List Secret)} (valid : q.validate = .ok ())
    (h : Run (Records.world .never) ((Action.custodian k).readPage caller q).run r t x r') :
    ∃ page, x = .ok page := by
  cases pageRead_of_run h with
  | malformed invalid => cases invalid.symm.trans valid
  | unlisted refused =>
    obtain same | never := refused
    · cases (Prod.mk.inj same).1
    · exact never.elim
  | settled => exact ⟨_, rfl⟩

theorem run_observe_spared {page : List Secret} {observed : List (Option Phase)}
    (either : k = Action.memoryKeystore tries ∨ k = Action.barbicanKeystore tries)
    (spared : ∀ v ∈ t, condemns v = false)
    (h : Run (Records.world f) (page.mapM (Lifecycle.observe (k.check caller))) r t observed r') :
    List.Forall₂ (fun _ o => o ≠ some .destroyed) page observed := by
  refine (Run.mapM_forall₂ h).imp ?_
  rintro s o ⟨r₁, u, r₂, part, run⟩ rfl
  unfold Lifecycle.observe at run
  by_cases waiting : s.phase ≠ .preactivation
  · rw [if_pos waiting] at run
    obtain ⟨-, same, -⟩ := Run.pure_iff.1 run
    cases same
  · rw [if_neg waiting] at run
    obtain ⟨_, x, _, _, rfl, checked, passed⟩ := Run.bind_iff.1 run
    obtain ⟨rfl, same, -⟩ := Run.pure_iff.1 passed
    cases x with
    | error _ => cases same
    | ok phase =>
      obtain rfl := Option.some.inj same
      obtain ⟨v, member, condemned⟩ := Keystore.condemned_of_check either checked
      rw [spared v (part.subset (List.mem_append_left _ member))] at condemned
      cases condemned

/-- Every tenant's secrets are listed as before. -/
def SameListing (r r' : Records) : Prop :=
  ∀ owner, (r'.live owner).map Catalog.place = (r.live owner).map Catalog.place

theorem SameListing.ids (h : SameListing r r') (tenant : Tenant) :
    (r'.live tenant).map Secret.id = (r.live tenant).map Secret.id := by
  have same := congrArg (List.map Prod.snd) (h tenant)
  rw [List.map_map, List.map_map] at same
  exact same

theorem sameListing_settled {v : Verdict} (filed : r.Filed) (found : r.lookup (tenant, s.id) = some s)
    (well : v.generationFailed = false) (settled : r.Settled tenant s v r') : r'.Filed ∧ SameListing r r' := by
  cases settled with
  | unchanged => exact ⟨filed, fun _ => rfl⟩
  | entered changed _ => exact ⟨filed.put rfl, Records.live_put_place filed.unique found rfl rfl⟩
  | deleted _ failed | lost _ failed =>
    rw [well] at failed
    cases failed

/-- A secret that is neither destroyed nor deleted is found to be destroyed only if its keystore reports it. -/
theorem assess_alive {observed : Option Phase} {now : Instant} (alive : s.phase ≠ .destroyed)
    (standing : s.deleted = false) (seen : observed ≠ some .destroyed) :
    (s.assess observed now).phase ≠ .destroyed := by
  intro destroyed
  cases changed : (s.assess observed now).changed with
  | false => exact alive ((Secret.assess_unchanged changed).symm.trans destroyed)
  | true =>
    rcases (Secret.assess_destroyed_of_changed changed).2 destroyed with failed | deleted
    · rw [Secret.generationFailed_assess seen] at failed
      cases failed
    · rw [standing] at deleted
      cases deleted

/-- If no generation has failed, a page shows every secret that is listed for it, and leaves all of them
listed. -/
theorem run_readPage_spared {q : Catalog.Query} {shown : List Secret}
    (either : k = Action.memoryKeystore tries ∨ k = Action.barbicanKeystore tries) (final : r.Final)
    (spared : ∀ v ∈ t, condemns v = false)
    (h : Run (Records.world f) ((Action.custodian k).readPage caller q).run r t (.ok shown) r') :
    shown.map Secret.id = (r.list caller.tenant q).map Secret.id ∧ SameListing r r' := by
  obtain ⟨now, observed, secrets, t₁, t₂, part, checked, settled, rfl⟩ :=
    run_readPage_listed (Keystore.apart_of_either either) h
  have seen := run_observe_spared either (fun v member => spared v (part.subset member)) checked
  obtain ⟨current, once⟩ := final.toFiled.list caller.tenant q
  have sees : ∀ p ∈ (r.list caller.tenant q).zip observed, p.2 ≠ some .destroyed := fun p member =>
    List.forall₂_zip seen member
  have each := run_settleAll_shown settled
  constructor
  · have shows : ∀ s ∈ secrets, s.phase ≠ .destroyed := by
      intro s member
      obtain ⟨n, bound, rfl⟩ := List.getElem_of_mem member
      have within : n < ((r.list caller.tenant q).zip observed).length := each.length_eq ▸ bound
      have paired := List.getElem_mem within
      obtain ⟨found, standing⟩ := current _ (List.of_mem_zip paired).1
      have alive : ((r.list caller.tenant q).zip observed)[n].1.phase ≠ .destroyed := by
        intro destroyed
        rw [final.marked found destroyed] at standing
        cases standing
      rcases (each.get within bound).2 with same | same
      · exact fun destroyed => alive (same.symm.trans destroyed)
      · exact fun destroyed => assess_alive alive standing (sees _ paired) (same.symm.trans destroyed)
    have own : (((r.list caller.tenant q).zip observed).map fun p => p.1.id) = secrets.map Secret.id := by
      rw [← List.forall₂_eq_eq_eq]
      exact List.forall₂_map_left_iff.2 (List.forall₂_map_right_iff.2 (each.imp fun _ _ shown => shown.1.symm))
    have firsts := congrArg (List.map Secret.id) (List.map_fst_zip seen.length_eq.le)
    rw [List.map_map] at firsts
    rw [List.filter_eq_self.2 fun s member => decide_eq_true (shows s member), ← own]
    exact firsts
  · refine (run_settleAll_state (R := fun r r' => r.Filed → r'.Filed ∧ SameListing r r') ?_ ?_ ?_ ?_ ?_ settled
      final.toFiled).2
    · exact fun r filed => ⟨filed, fun _ => rfl⟩
    · intro r r₁ r' first rest filed
      obtain ⟨filed₁, same⟩ := first filed
      obtain ⟨filed', same'⟩ := rest filed₁
      exact ⟨filed', fun owner => (same' owner).trans (same owner)⟩
    · exact fun p member r r' found settled filed =>
        sameListing_settled filed found (Secret.generationFailed_assess (sees p member)) settled
    · exact fun p member => (current p.1 (List.of_mem_zip member).1).1
    · exact nodup_zip once

/-- Pages of one size that are asked for one after the other are cut from one list. -/
theorem run_pages {limit : Nat} {offsets : List Nat} {replies : List (Except Error Reply)}
    (either : k = Action.memoryKeystore tries ∨ k = Action.barbicanKeystore tries)
    (positive : 1 ≤ limit) (bounded : limit ≤ Catalog.Query.maxLimit) (final : r.Final)
    (spared : ∀ v ∈ t, condemns v = false)
    (h : Run (Records.world .never) ((Action.custodian k).performAll
      (offsets.map fun offset => .list reader ⟨limit, offset⟩)) r t replies r') :
    ∃ pages : List (List Secret), replies = pages.map (fun page => .ok (.page page)) ∧
      pages.map (List.map Secret.id) =
        offsets.map fun offset => (((r.live reader.tenant).map Secret.id).drop offset).take limit := by
  induction offsets generalizing r t replies with
  | nil =>
    obtain ⟨-, rfl, -⟩ := Run.pure_iff.1 h
    exact ⟨[], rfl, rfl⟩
  | cons offset offsets ih =>
    rw [List.map_cons, performAll, List.mapM_cons] at h
    obtain ⟨t₁, reply, r₁, _, rfl, performed, remaining⟩ := Run.bind_iff.1 h
    obtain ⟨t₂, rest, r₂, _, rfl, others, passed⟩ := Run.bind_iff.1 remaining
    obtain ⟨rfl, rfl, rfl⟩ := Run.pure_iff.1 passed
    obtain ⟨final₁, -⟩ := lasts_perform (Keystore.apart_of_either either) _ _ _ _ performed final
    obtain ⟨x, rfl, listed⟩ := Run.mapped_iff.1 performed
    obtain ⟨u, _, rfl, read, rfl⟩ := run_counted_iff.1 listed
    have valid : (⟨limit, offset⟩ : Catalog.Query).validate = .ok () := by
      simp [Catalog.Query.validate, Catalog.Query.violations, positive, bounded, Violation.check]
    obtain ⟨page, rfl⟩ := run_readPage_answered valid read
    obtain ⟨shows, same⟩ := run_readPage_spared either final (fun v member => spared v (by simp [member])) read
    obtain ⟨pages, rfl, ids⟩ := ih final₁ (fun v member => spared v (by simp [member])) others
    refine ⟨page :: pages, rfl, ?_⟩
    rw [List.map_cons, ids, shows, same.ids, List.map_cons, Records.list, List.map_take, List.map_drop]

/-! ## Secrets that have been created -/

/-- After any requests, and whatever fails. Where a creation succeeds, there is one secret more. As long as
its record is not deleted, and if no generation is found to have failed, the pages that list all secrets show
it once. A secret that is submitted as deleted neither counts nor is shown, though its creation succeeds. -/
theorem created_secret_shows_unless_deleted {requests later : List Request} {xs ys : List (Except Error Reply)}
    {secret shown : Secret} {whole : Bool} {u v : Trace} {r₁ r₂ : Records}
    (either : k = Action.memoryKeystore tries ∨ k = Action.barbicanKeystore tries)
    (h : Run (Records.world .any) ((Action.custodian k).performAll requests) [] t xs r)
    (created : Run (Records.world .any) ((Action.custodian k).perform (.create caller secret whole)) r u
      (.ok (.secret shown)) r₁)
    (after : Run (Records.world .any) ((Action.custodian k).performAll later) r₁ v ys r₂)
    (untouched : ∀ e ∈ v, e.call.deletes caller.tenant shown.id = false)
    (same : reader.tenant = caller.tenant) :
    (∃ n, ∀ q, q.validate = .ok () →
      (∀ w reply r', Run (Records.world .never) ((Action.custodian k).perform (.total reader q)) r w reply r' →
        reply = .ok (.number n)) ∧
      ∀ w reply r', Run (Records.world .never) ((Action.custodian k).perform (.total reader q)) r₁ w reply r' →
        reply = .ok (.number (n + if secret.deleted then 0 else 1))) ∧
    ∀ limit n w replies r', 1 ≤ limit → limit ≤ Catalog.Query.maxLimit → r₂.total caller.tenant ≤ n * limit →
      Run (Records.world .never) ((Action.custodian k).performAll
        ((List.range n).map fun i => .list reader ⟨limit, i * limit⟩)) r₂ w replies r' →
      (∀ e ∈ w, condemns e = false) →
        ∃ pages : List (List Secret), replies = pages.map (fun page => .ok (.page page)) ∧
          (pages.flatten.map Secret.id).count shown.id = if secret.deleted then 0 else 1 := by
  have apart := Keystore.apart_of_either either
  obtain ⟨final, -⟩ := lasts_performAll apart _ _ _ _ h Records.final_empty
  obtain ⟨final₁, -⟩ := lasts_perform apart _ _ _ _ created final
  obtain ⟨final₂, -⟩ := lasts_performAll apart _ _ _ _ after final₁
  have beside : Run (both free (Records.world .any)) _ ((), r) u _ ((), r₁) :=
    created.map (fun r => ((), r)) fun _ _ _ _ answered => ⟨trivial, answered⟩
  obtain ⟨made, id, now, record, t₁, t₂, _, -, kept, issued, unused, rfl, rfl, -, -, rfl⟩ :=
    run_create_filed apart beside
  have flag : made.secret.deleted = secret.deleted := (run_apart (apart.create caller _) kept.right).2.deleted
  constructor
  · refine ⟨r.total caller.tenant, fun q valid => ⟨fun w reply r' asked => ?_, fun w reply r' asked => ?_⟩⟩
    · rw [run_total valid asked, same]
    · rw [run_total valid asked, same, Records.total_put_new unused, flag]
  · intro limit n w replies r' positive bounded enough listed spared
    have known : (r₂.lookup (caller.tenant, shown.id)).map Secret.deleted = some secret.deleted := by
      refine after.path.along (fun _ r => (r.lookup (caller.tenant, shown.id)).map Secret.deleted =
        some secret.deleted) [] ?_ ?_
      · exact fun _ r e r' member known answered => Records.flag_world known (untouched e member) answered
      · rw [Records.lookup_put_self]
        exact congrArg some flag
    have offsets : ((List.range n).map fun i => Request.list reader ⟨limit, i * limit⟩) =
        ((List.range n).map (· * limit)).map fun offset => .list reader ⟨limit, offset⟩ := by
      rw [List.map_map]
      rfl
    rw [offsets] at listed
    obtain ⟨pages, rfl, ids⟩ := run_pages either positive bounded final₂ spared listed
    refine ⟨pages, rfl, ?_⟩
    -- one after the other, the pages are the whole list
    have whole : pages.flatten.map Secret.id = (r₂.live caller.tenant).map Secret.id := by
      rw [List.map_flatten, ids, same, List.map_map, ← List.flatMap_def]
      refine (Catalog.flatMap_pages _ limit n).trans (List.take_of_length_le ?_)
      rw [List.length_map]
      exact enough
    obtain ⟨current, once⟩ := final₂.toFiled.live caller.tenant
    rw [whole]
    obtain ⟨record, found, deleted⟩ := Option.map_eq_some_iff.1 known
    have own : record.id = shown.id := final₂.toFiled.of_lookup found
    cases standing : secret.deleted with
    | false =>
      refine List.count_eq_one_of_mem once (List.mem_map.2 ⟨record, (current record).2 ⟨?_, ?_⟩, own⟩)
      · rwa [own]
      · exact deleted.trans standing
    | true =>
      refine List.count_eq_zero_of_not_mem fun member => ?_
      obtain ⟨s, live, same⟩ := List.mem_map.1 member
      obtain ⟨found', alive⟩ := (current s).1 live
      rw [same, found] at found'
      rw [← Option.some.inj found', deleted, standing] at alive
      cases alive

/-- A secret that is found to wait for its date, beside one of another tenant that is destroyed. -/
theorem created_secret_shows_unless_deleted_of_waiting :
    let caller : Caller := ⟨⟨"s", "o"⟩, "c", none⟩
    let other : Caller := ⟨⟨"s", "p"⟩, "c", none⟩
    let secret : Secret :=
      { Secret.named "key" with payload := some ⟨"material"⟩, activation := some ⟨200, 0⟩ }
    let c := Action.custodian (Action.memoryKeystore 1)
    let y := ((c.performAll [.create other secret true]).run (Depot.answer unissued)
      ⟨⟨.map [], []⟩, [], 0⟩).2
    let y₁ := ((c.perform (.create caller secret false)).run (Depot.answer unissued) y).2
    let y₂ := ((c.performAll [.fetch caller "k", .destroy other "k" false]).run (Depot.answer unissued) y₁).2
    (y₂.records.lookup (caller.tenant, "k")).map Secret.phase = some .preactivation ∧
      ∃ pages : List (List Secret),
        ((c.performAll [.list caller ⟨1, 0⟩, .list caller ⟨1, 1⟩]).run (Depot.answer unissued) y₂).1 =
          pages.map (fun page => .ok (.page page)) ∧ (pages.flatten.map Secret.id).count "k" = 1 := by
  intro caller other secret c y y₁ y₂
  have before : Run (Depot.world unissued) (c.performAll _) _ _ _ y :=
    Run.of_answers (Depot.world_answer unissued) _ _
  have made : Run (Depot.world unissued) (c.perform (.create caller secret false)) y _ _ y₁ :=
    Run.of_answers (Depot.world_answer unissued) _ _
  have later : Run (Depot.world unissued) (c.performAll [.fetch caller "k", .destroy other "k" false]) y₁ _ _ y₂ :=
    Run.of_answers (Depot.world_answer unissued) _ _
  have listed : Run (Depot.world unissued) (c.performAll [.list caller ⟨1, 0⟩, .list caller ⟨1, 1⟩]) y₂ _ _ _ :=
    Run.of_answers (Depot.world_answer unissued) _ _
  have issued : ((c.perform (.create caller secret false)).run (Depot.answer unissued) y).1 =
      .ok (.secret { Secret.named "key" with id := "k", phase := .activation }) := by decide +kernel
  have waiting : (y₂.records.lookup (caller.tenant, "k")).map Secret.phase = some .preactivation := by
    decide +kernel
  have untouched : ((c.performAll [.fetch caller "k", .destroy other "k" false]).trace (Depot.answer unissued) y₁).all
      (fun e => !e.call.deletes caller.tenant "k") = true := by decide +kernel
  have spared : ((c.performAll [.list caller ⟨1, 0⟩, .list caller ⟨1, 1⟩]).trace (Depot.answer unissued) y₂).all
      (fun e => !condemns e) = true := by decide +kernel
  have one : y₂.records.total caller.tenant = 1 := by decide +kernel
  rw [issued] at made
  clear_value y y₁ y₂
  refine ⟨waiting, ?_⟩
  obtain ⟨-, pages⟩ := created_secret_shows_unless_deleted (.inl rfl) (Depot.run_records before)
    (Depot.run_records made) (Depot.run_records later)
    (fun e member => by simpa using List.all_eq_true.1 untouched e member) rfl
  exact pages 1 2 _ _ _ le_rfl (by decide) (by rw [one]; decide) (Depot.run_records listed)
    (fun e member => by simpa using List.all_eq_true.1 spared e member)

/-- A secret that is submitted as deleted: its creation succeeds, but it neither counts nor is shown. -/
theorem deleted_submission_shows_nowhere :
    let caller : Caller := ⟨⟨"s", "o"⟩, "c", none⟩
    let secret : Secret := { Secret.named "key" with payload := some ⟨"material"⟩, deleted := true }
    (((Action.custodian (Action.memoryKeystore 1)).performAll
      [.total caller ⟨10, 0⟩, .create caller secret false, .total caller ⟨10, 0⟩, .list caller ⟨10, 0⟩]).run
        (Depot.answer unissued) ⟨⟨.map [], []⟩, [], 0⟩).1 =
      [.ok (.number 0), .ok (.secret { Secret.named "key" with id := "k", phase := .activation }),
        .ok (.number 0), .ok (.page [])] := by
  decide +kernel

end Custodian

end KeyCustody
