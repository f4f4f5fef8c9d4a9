import KeyCustody.Proofs.Custodian.Stocking
import KeyCustody.Proofs.Registry.Replay
import Mathlib.Data.Finset.Card

/-!
# Entries, material and records in step

Registry, vault and catalog share no transaction. Where no call fails they still agree after every
request: a secret that is not deleted has its entry, and its entry the material.
-/

namespace KeyCustody

open Program
open Registry (Store)

/-! ## Records that stand -/

/-- A call that files a record, or marks one as deleted. -/
def Call.files : Call → Bool
  | createRecord .. | deleteRecord .. => true
  | _ => false

namespace Catalog.Records

variable {f : Fault} {r r' : Records} {tenant tenant' : Tenant} {id id' : String} {caller : Caller}
  {s stored : Secret}

/-- There is a record of this identifier that is not deleted. -/
def Stands (r : Records) (tenant : Tenant) (id : String) : Prop :=
  ∃ s, r.lookup (tenant, id) = some s ∧ s.deleted = false

theorem stands_change {c : PhaseChange} :
    (r.change tenant id c).2.Stands tenant' id' ↔ r.Stands tenant' id' := by
  unfold Records.change
  cases found : r.lookup (tenant, id) with
  | none => exact Iff.rfl
  | some s =>
    by_cases same : (tenant', id') = (tenant, id)
    · obtain ⟨rfl, rfl⟩ := Prod.mk.inj same
      simp [Stands, Records.put, found, Secret.enter]
    · simp only [Stands, Records.put, Keyed.lookup_put_other same]

theorem stands_delete : (r.delete tenant id).2.Stands tenant' id' ↔
    r.Stands tenant' id' ∧ (tenant', id') ≠ (tenant, id) := by
  unfold Records.delete
  by_cases same : (tenant', id') = (tenant, id)
  · obtain ⟨rfl, rfl⟩ := Prod.mk.inj same
    cases found : r.lookup (tenant', id') with
    | none => simp [Stands, found]
    | some s => simp [Stands, Records.put]
  · cases found : r.lookup (tenant, id) with
    | none => simp [same]
    | some s => simp only [Stands, Records.put, Keyed.lookup_put_other same, ne_eq, same, not_false_eq_true,
        and_true]

/-- A record that is stored stands, unless it is said to be deleted. -/
theorem stands_create {now : Time.Instant} (standing : s.deleted = false)
    (h : r.create tenant now s = (.ok stored, r')) :
    r'.Stands tenant' id' ↔ (tenant', id') = (tenant, s.id) ∨ r.Stands tenant' id' := by
  obtain ⟨_, refused⟩ | ⟨_, filed, -, rfl⟩ := create_cases tenant now s r
  · cases h.symm.trans refused
  obtain ⟨-, rfl⟩ := Prod.mk.inj (h.symm.trans filed)
  by_cases same : (tenant', id') = (tenant, s.id)
  · obtain ⟨rfl, rfl⟩ := Prod.mk.inj same
    simp [Stands, Records.put, standing]
  · simp only [Stands, Records.put, Keyed.lookup_put_other same, same, false_or]

/-- A call that neither files nor marks a record leaves those that stand. -/
theorem stands_world {c : Call} {a : c.Answer} (quiet : c.files = false)
    (answered : Records.world f c r a r') : r'.Stands tenant id ↔ r.Stands tenant id := by
  cases c with
  | createRecord | deleteRecord => cases quiet
  | changeRecord caller id' c =>
    have admitted : f.Admits (r.change caller.tenant id' c) r a r' := answered
    obtain rfl | rfl := admitted.state
    · exact Iff.rfl
    · exact stands_change
  | getRecord caller id' =>
    have admitted : f.Admits (.ok (r.get caller.tenant id'), r) r a r' := answered
    rw [admitted.lookup.1]
  | listRecords caller q =>
    have admitted : f.Admits (.ok (r.list caller.tenant q), r) r a r' := answered
    rw [admitted.lookup.1]
  | totalRecords caller q =>
    have admitted : f.Admits (.ok (r.total caller.tenant), r) r a r' := answered
    rw [admitted.lookup.1]
  | _ =>
    obtain rfl : r' = r := answered
    exact Iff.rfl

theorem run_stands {α : Type} {p : Action α} {result : α → Prop} {a : α} {t : Trace}
    (quiet : p.Keeps (·.files = false) result) (h : Run (Records.world f) p r t a r') :
    r'.Stands tenant id ↔ r.Stands tenant id :=
  (quiet.invariant (fun r' => r'.Stands tenant id ↔ r.Stands tenant id)
    (fun _ _ _ _ quiet same answered => (stands_world quiet answered).trans same) Iff.rfl h).1

end Catalog.Records

/-! ## Reading -/

namespace Secret

variable {s : Secret} {observed : Option Phase} {now : Time.Instant}

/-- Only where the keystore reports it is the verdict that there will be no material. -/
theorem generationFailed_assess (seen : observed ≠ some .destroyed) :
    (s.assess observed now).generationFailed = false :=
  Bool.eq_false_iff.2 fun failed => seen ((finding_assess s observed now).generationFailed_iff.1 failed).2

end Secret

namespace Custodian

variable {tries : Nat} {f : Fault} {caller : Caller} {tenant : Tenant} {id : String} {refs : List String}
  {x x' : Stock} {r r' : Catalog.Records} {t : Trace}

theorem quiet_update {k : Keystore Action} {s : Secret} {observed : Option Phase}
    (seen : observed ≠ some .destroyed) :
    ((Action.custodian k).update caller s observed).run.Keeps (·.files = false) fun _ => True :=
  ⟨rfl, fun _ => (Action.keeps_settle (fun _ => rfl) (fun _ => rfl)
    (Secret.generationFailed_assess seen)).bind fun _ _ => trivial⟩

theorem files_of_looks {c : Call} (looks : c.looks = true) : c.files = false := by
  cases c with
  | getEntry | findMaterial => rfl
  | _ => cases looks

/-- Fetching a secret does not delete its record: what is fetched is in use. -/
theorem quiet_read : ((Action.custodian (Action.memoryKeystore tries)).read caller id).run.Keeps
    (·.files = false) fun _ => True := by
  refine @keeps_read_of _ _ _ _ (· = .activation) rfl
    (Keystore.InMemory.payload_inUse.widen fun _ => files_of_looks) fun s observed seen => quiet_update ?_
  rintro rfl
  cases seen _ rfl

/-- With material behind every entry, no check on a page finds any lost. -/
theorem run_observeAll {page : List Secret} {observed : List (Option Phase)} (kept : x.Kept refs)
    (full : x.Full)
    (h : Run (Stock.world .clean)
      (page.mapM (Lifecycle.observe ((Action.memoryKeystore tries).check caller))) x t observed x') :
    ∀ o ∈ observed, o ≠ some .destroyed := by
  induction page generalizing t observed x with
  | nil =>
    obtain ⟨-, rfl, -⟩ := Run.pure_iff.1 h
    exact List.forall_mem_nil _
  | cons s page ih =>
    obtain ⟨_, o, x₁, _, others, rfl, rfl, first, checks⟩ := Run.mapM_cons_iff.1 h
    unfold Lifecycle.observe at first
    by_cases waiting : s.phase ≠ .preactivation
    · rw [if_pos waiting] at first
      obtain ⟨-, rfl, rfl⟩ := Run.pure_iff.1 first
      exact List.forall_mem_cons.2 ⟨nofun, ih kept full checks⟩
    · rw [if_neg waiting] at first
      obtain ⟨_, phase, _, _, rfl, checked, passed⟩ := Run.bind_iff.1 first
      obtain ⟨-, rfl, rfl⟩ := Run.pure_iff.1 passed
      obtain rfl := Stock.run_idle
        (Keystore.InMemory.check_looks.widen fun _ => Call.altersStock_of_looks) checked
      refine List.forall_mem_cons.2 ⟨?_, ih kept full checks⟩
      cases phase with
      | error _ => exact nofun
      | ok phase =>
        obtain rfl := Keystore.InMemory.run_check kept full checked
        exact nofun

/-- Listing a page deletes no record, as nothing is found to be lost. -/
theorem run_readPage {q : Catalog.Query} {page : Except Error (List Secret)} (kept : x.Kept refs)
    (full : x.Full)
    (h : Run (both (Stock.world .clean) (Catalog.Records.world f))
      ((Action.custodian (Action.memoryKeystore tries)).readPage caller q).run (x, r) t page (x', r')) :
    r'.Stands tenant id ↔ r.Stands tenant id := by
  cases paged_of_run h with
  | malformed => exact Iff.rfl
  | unlisted refused => exact Catalog.Records.stands_world rfl refused.2
  | @settled page _ _ _ _ _ y₁ y₂ _ _ listed read checked settled =>
    have same : y₂.1 = x := (Stock.world_eq rfl read.1).trans (Stock.world_eq rfl listed.1)
    have seen := run_observeAll (same ▸ kept) (same ▸ full) checked.left
    -- the catalog is listed, the clock read, the page checked, and only verdicts on phases written
    rw [← Catalog.Records.stands_world rfl listed.2, ← Catalog.Records.stands_world rfl read.2,
      ← Catalog.Records.run_stands (keeps_observe
        (fun _ => Keystore.InMemory.check_looks.widen fun _ => files_of_looks) page) checked.right]
    refine Catalog.Records.run_stands (keeps_mapM fun p member => ?_) settled.right
    refine (Action.keeps_settle (fun _ => rfl) (fun _ => rfl) ?_).bind fun _ _ => trivial
    exact Secret.generationFailed_assess (seen _ (List.of_mem_zip member).2)

/-! ## Requests -/

/-- There is material behind every entry, and the records that stand are those of the entries. -/
structure InStep (refs : List String) (x : Stock) (r : Catalog.Records) : Prop where
  kept : x.Kept refs
  full : x.Full
  filed : r.Filed
  stands : ∀ tenant id, r.Stands tenant id ↔ (x.store.live? tenant id).isSome = true

/-- What requests keep, if no reference is drawn twice and no entry is left when it should be deleted. -/
def Tandem (y : Stock × Catalog.Records) (t : Trace) (y' : Stock × Catalog.Records) : Prop :=
  ∀ refs, InStep refs y.1 y.2 → (refs ++ drawn t).Nodup → Removes t → InStep (refs ++ drawn t) y'.1 y'.2

theorem inStep_empty {s : Store} (empty : s = .table true [] ∨ s = .map []) : InStep [] ⟨s, []⟩ [] where
  kept := Stock.kept_empty empty
  full := Stock.full_empty empty
  filed := Catalog.Records.sound_empty.toFiled
  stands tenant id := by
    obtain rfl | rfl := empty
    · simp [Catalog.Records.Stands, Store.live?, Registry.Table.live?]
    · simp [Catalog.Records.Stands, Store.live?]

theorem InStep.mono {refs' : List String} (h : InStep refs x r) (part : refs ⊆ refs') : InStep refs' x r :=
  { h with kept := h.kept.mono part }

theorem chains_tandem : Chains Tandem where
  refl _ refs inStep _ _ := inStep.mono (List.subset_append_left refs _)
  append first rest refs inStep distinct removes := by
    obtain ⟨before, after⟩ := removes_append.1 removes
    rw [drawn_append, ← List.append_assoc] at distinct ⊢
    exact rest _ (first refs inStep (List.nodup_append.1 distinct).1 before) distinct after

/-- What keeps up the stock, and leaves the records that stand to be those of the entries. -/
theorem tandem_of {α : Type} {p : Action α} (upkeep : Respects (Stock.world .clean) Upkeep p)
    (stands : ∀ refs x r t a x' r', InStep refs x r → (∀ ref ∈ drawn t, ref ∉ refs) → Removes t →
      Run (both (Stock.world .clean) (Catalog.Records.world .never)) p (x, r) t a (x', r') →
        ∀ tenant id, r'.Stands tenant id ↔ (x'.store.live? tenant id).isSome = true) :
    Respects (both (Stock.world .clean) (Catalog.Records.world .never)) Tandem p := by
  rintro ⟨x, r⟩ t a ⟨x', r'⟩ h refs inStep distinct removes
  obtain ⟨kept, full⟩ := upkeep _ _ _ _ h.left refs inStep.kept distinct
  have fresh : ∀ ref ∈ drawn t, ref ∉ refs := fun ref drew used =>
    (List.nodup_append.1 distinct).2.2 ref used ref drew rfl
  exact ⟨kept, full removes inStep.full,
    h.right.invariant (fun _ _ _ _ filed answered => filed.after answered) inStep.filed,
    stands refs x r t a x' r' inStep fresh removes h⟩

/-- What changes no stock and leaves the records that stand. -/
theorem tandem_of_idle {α : Type} {p : Action α} (idle : p.Keeps (·.altersStock = false) fun _ => True)
    (stands : ∀ refs x r t a x' r', InStep refs x r →
      Run (both (Stock.world .clean) (Catalog.Records.world .never)) p (x, r) t a (x', r') →
        ∀ tenant id, r'.Stands tenant id ↔ r.Stands tenant id) :
    Respects (both (Stock.world .clean) (Catalog.Records.world .never)) Tandem p := by
  refine tandem_of (upkeep_idle idle) fun refs x r t a x' r' inStep _ _ h tenant id => ?_
  obtain rfl := Stock.run_idle idle h.left
  exact (stands refs _ r t a _ r' inStep h tenant id).trans (inStep.stands tenant id)

theorem onCatalog_records : World.OnCatalog (Catalog.Records.world f) :=
  fun _ _ _ _ apart answered => world_eq apart answered

theorem tandem_place {secret : Secret} (fresh : secret.deleted = false) :
    Respects (both (Stock.world .clean) (Catalog.Records.world .never)) Tandem
      ((Action.custodian (Action.memoryKeystore tries)).place caller secret) := by
  refine tandem_of upkeep_place fun refs x r t a x' r' inStep unused removes h tenant id => ?_
  cases placing_of_run onCatalog_records inStep.kept unused h with
  | undone restores left =>
    obtain rfl : r' = r := by
      obtain same | ⟨record, e, now, refused⟩ := left
      · exact same
      · have outcome := refused.only
        rw [← Catalog.Records.create_error (congrArg Prod.fst outcome).symm, ← outcome]
    rw [restores.live]
    exact inStep.stands tenant id
  | halted _ _ failed => exact absurd failed (removes _ _ _)
  | placed record _ deposits standing filed =>
    obtain ⟨now, admitted⟩ := filed
    rw [Catalog.Records.stands_create (standing.trans fresh) admitted.ok]
    by_cases same : (tenant, id) = (caller.tenant, record.id)
    · obtain ⟨rfl, rfl⟩ := Prod.mk.inj same
      obtain ⟨e, stands, -⟩ := deposits.stands
      simp [stands]
    · rw [deposits.live?_other same, or_iff_right same]
      exact inStep.stands tenant id

theorem tandem_remove {whole : Bool} {ledger : Ledger Action} :
    Respects (both (Stock.world .clean) (Catalog.Records.world .never)) Tandem
      ((Action.custodian (Action.memoryKeystore tries)).remove caller id whole ledger) := by
  refine tandem_of upkeep_remove fun refs x r t a x' r' inStep _ removes h tenant id' => ?_
  cases removing_of_run onCatalog_records h with
  | refused same left =>
    subst same left
    exact inStep.stands tenant id'
  | halted _ failed => exact absurd failed (removes _ _ _)
  | withdrawn withdraws marked =>
    have admitted : Fault.never.Admits (r.delete caller.tenant id) r _ r' := marked
    obtain rfl : r' = (r.delete caller.tenant id).2 := congrArg Prod.snd admitted.only
    rw [Catalog.Records.stands_delete]
    by_cases same : (tenant, id') = (caller.tenant, id)
    · obtain ⟨rfl, rfl⟩ := Prod.mk.inj same
      simp [withdraws.live?_self inStep.kept.sound.isOpen]
    · rw [withdraws.live?_other same, and_iff_left same]
      exact inStep.stands tenant id'

theorem tandem_performAll {requests : List Request} (fresh : ∀ q ∈ requests, q.IsFresh) :
    Respects (both (Stock.world .clean) (Catalog.Records.world .never)) Tandem
      ((Action.custodian (Action.memoryKeystore tries)).performAll requests) := by
  have quiet : ∀ {α : Type} {p : Action α}, p.Keeps (·.altersStock = false) (fun _ => True) →
      p.Keeps (·.files = false) (fun _ => True) →
        Respects (both (Stock.world .clean) (Catalog.Records.world .never)) Tandem p :=
    fun idle quiet => tandem_of_idle idle fun _ _ _ _ _ _ _ _ h _ _ =>
      Catalog.Records.run_stands quiet h.right
  refine .mapM chains_tandem fun q member => respects_perform chains_tandem ?_ ?_ ?_ ?_ ?_ ?_
  · exact fun c => quiet ⟨rfl, fun _ => trivial⟩ ⟨rfl, fun _ => trivial⟩
  · rintro caller s whole rfl
    exact tandem_place (fresh _ member)
  · exact fun _ => quiet idle_read quiet_read
  · exact fun _ => tandem_of_idle idle_readPage fun _ _ _ _ _ _ _ inStep h _ _ =>
      run_readPage inStep.kept inStep.full h
  · exact fun _ => quiet ⟨rfl, fun _ => trivial⟩ ⟨rfl, fun _ => trivial⟩
  · exact fun _ _ => tandem_remove

/-! ## Where nothing fails -/

theorem run_total {k : Keystore Action} {q : Catalog.Query} {reply : Except Error Reply}
    (valid : q.validate = .ok ())
    (h : Run (Catalog.Records.world .never) ((Action.custodian k).perform (.total caller q)) r t reply r') :
    reply = .ok (.number (r.total caller.tenant)) := by
  obtain ⟨n, rfl, counted⟩ := Run.mapped_iff.1 h
  obtain ⟨_, r₁, rfl, asked, -⟩ := run_counted_iff.1 counted
  simp only [valid] at asked
  obtain ⟨rfl, answered⟩ := Run.ask_iff.1 asked
  have admitted : Fault.never.Admits (.ok (r.total caller.tenant), r) r n r₁ := answered
  rw [(Prod.mk.inj admitted.only).1]
  rfl

/-- A store that nothing fails in deletes every entry that it should. -/
theorem removes_never {α : Type} {p : Action α} {a : α} (sound : x.store.Sound)
    (h : Run (Stock.world .never) p x t a x') : Removes t := by
  -- the store stays sound, so it is open, and an open one refuses no deletion
  refine (h.path.along (fun past x => x.store.Sound ∧ Removes past) [] ?_
    ⟨sound, fun _ _ _ => List.not_mem_nil⟩).2
  rintro past x ⟨c, a⟩ x' - ⟨sound, removes⟩ ⟨answered, -⟩
  have clean : x'.store = x.store.after ⟨c, a⟩ := Store.world_after (Store.world_of_never answered)
  refine ⟨clean ▸ Store.sound_after sound _, removes_append.2 ⟨removes, fun tenant id e member => ?_⟩⟩
  cases List.mem_singleton.1 member
  have admitted : Fault.never.Admits (x.store.delete tenant id) x.store (.error e) x'.store := answered
  cases (congrArg Prod.fst admitted.only).trans (Store.delete_eq sound.isOpen)

/-- Stock and records of a custodian over a keystore in memory, where no call fails and no reference is drawn
twice, after any requests of any tenants, none of them to create a secret that is said to be deleted. The
identifiers of a tenant's records that are not deleted, those of its entries, and those whose entry has its
material are the same, and they are as many as the tenant is told. -/
theorem systems_in_step {s : Store} {requests : List Request} {xs : List (Except Error Reply)}
    (empty : s = .table true [] ∨ s = .map []) (fresh : ∀ q ∈ requests, q.IsFresh)
    (distinct : (drawn t).Nodup)
    (h : Run (both (Stock.world .never) (Catalog.Records.world .never))
      ((Action.custodian (Action.memoryKeystore tries)).performAll requests) (⟨s, []⟩, []) t xs (x, r))
    (tenant : Tenant) :
    ∃ ids : Finset String,
      (∀ id, id ∈ ids ↔ ∃ record, r.lookup (tenant, id) = some record ∧ record.deleted = false) ∧
      (∀ id, id ∈ ids ↔ ∃ e, x.store.live? tenant id = some e) ∧
      (∀ id, id ∈ ids ↔ ∃ e ref material, x.store.live? tenant id = some e ∧ e.secret? = some ref ∧
        (ref, material) ∈ x.material) ∧
      ∀ caller q u reply y, caller.tenant = tenant → q.validate = .ok () →
        Run (both (Stock.world .never) (Catalog.Records.world .never))
          ((Action.custodian (Action.memoryKeystore tries)).perform (.total caller q)) (x, r) u reply y →
            reply = .ok (.number ids.card) := by
  have removes := removes_never (inStep_empty empty).kept.sound h.left
  have clean : Run (both (Stock.world .clean) (Catalog.Records.world .never)) _ _ t xs (x, r) :=
    h.mono fun _ _ _ _ answered => ⟨Stock.world_of_never answered.1, answered.2⟩
  obtain ⟨kept, full, filed, stands⟩ :=
    tandem_performAll fresh _ _ _ _ clean [] (inStep_empty empty) distinct removes
  obtain ⟨current, once⟩ := filed.live tenant
  have records : ∀ id, id ∈ ((r.live tenant).map Secret.id).toFinset ↔ r.Stands tenant id := by
    intro id
    rw [List.mem_toFinset, List.mem_map]
    constructor
    · rintro ⟨record, member, rfl⟩
      exact ⟨record, (current record).1 member⟩
    · rintro ⟨record, found, live⟩
      obtain rfl := filed.of_lookup found
      exact ⟨record, (current record).2 ⟨found, live⟩, rfl⟩
  have entries : ∀ id, r.Stands tenant id ↔ ∃ e, x.store.live? tenant id = some e := fun id =>
    (stands tenant id).trans Option.isSome_iff_exists
  refine ⟨_, records, fun id => (records id).trans (entries id), fun id => ?_, ?_⟩
  · rw [records, entries]
    refine ⟨fun ⟨e, stands⟩ => ?_, fun ⟨e, _, _, stands, _⟩ => ⟨e, stands⟩⟩
    obtain ⟨ref, -, named⟩ := kept.referred tenant id e stands
    obtain ⟨material, present⟩ := full tenant id ref (Option.bind_eq_some_iff.2 ⟨e, stands, named⟩)
    exact ⟨e, ref, material, stands, named, present⟩
  · rintro caller q u reply y rfl valid asked
    rw [run_total valid asked.right, List.toFinset_card_of_nodup once, List.length_map]
    rfl

/-- The identifier of a destroyed secret is issued again: its record is still there, so that creation is
taken back, and the tenant has nothing. The other tenant still has what it created. -/
theorem systems_in_step_of_reuse :
    let a : Caller := ⟨⟨"s", "o"⟩, "a", none⟩
    let b : Caller := ⟨⟨"s", "p"⟩, "b", none⟩
    let secret : Secret := { Secret.named "key" with payload := some ⟨"material"⟩ }
    let c := Action.custodian (Action.memoryKeystore 1)
    let requests : List Request := [.create a secret true, .create b secret true, .destroy a "k" false,
      .create a secret true, .list b ⟨10, 0⟩]
    let y := ((c.performAll requests).run (Depot.answer unissued) ⟨⟨.map [], []⟩, [], 0⟩).2
    (y.records.lookup (a.tenant, "k")).map Secret.deleted = some true ∧
      (∀ id, y.stock.store.live? a.tenant id = none) ∧
      ∃ ids : Finset String, "k" ∈ ids ∧
        (∀ id, id ∈ ids → ∃ e, y.stock.store.live? b.tenant id = some e) ∧
        ((c.perform (.total b ⟨10, 0⟩)).run (Depot.answer unissued) y).1 = .ok (.number ids.card) := by
  intro a b secret c requests y
  let t := (c.performAll requests).trace (Depot.answer unissued) ⟨⟨.map [], []⟩, [], 0⟩
  have run : Run (Depot.world unissued) (c.performAll requests) ⟨⟨.map [], []⟩, [], 0⟩ t _ y :=
    Run.of_answers (Depot.world_answer unissued) _ _
  have told := fun caller =>
    Run.of_answers (Depot.world_answer unissued) (c.perform (.total caller ⟨10, 0⟩)) y
  have fresh : ∀ q ∈ requests, q.IsFresh := by simp [requests, Request.IsFresh, secret, Secret.named]
  have distinct : (drawn t).Nodup := by decide +kernel
  have marked : (y.records.lookup (a.tenant, "k")).map Secret.deleted = some true := by decide +kernel
  have zero : ((c.perform (.total a ⟨10, 0⟩)).run (Depot.answer unissued) y).1 = .ok (.number 0) := by
    decide +kernel
  have kept : (y.stock.store.live? b.tenant "k").isSome = true := by decide +kernel
  clear_value y t
  have inStep := systems_in_step (.inr rfl) fresh distinct (Depot.run_parts run)
  refine ⟨marked, fun id => ?_, ?_⟩
  · obtain ⟨ids, -, entries, -, total⟩ := inStep a.tenant
    have count := total a _ _ _ _ rfl rfl (Depot.run_parts (told a))
    have nobody : ids.card = 0 := (Reply.number.inj (Except.ok.inj (zero.symm.trans count))).symm
    by_contra some
    obtain ⟨e, stands⟩ := Option.ne_none_iff_exists'.1 some
    exact Finset.notMem_empty id (Finset.card_eq_zero.1 nobody ▸ (entries id).2 ⟨e, stands⟩)
  · obtain ⟨ids, -, entries, -, total⟩ := inStep b.tenant
    exact ⟨ids, (entries "k").2 (Option.isSome_iff_exists.1 kept), fun id => (entries id).1,
      total b _ _ _ _ rfl rfl (Depot.run_parts (told b))⟩

end Custodian

end KeyCustody
