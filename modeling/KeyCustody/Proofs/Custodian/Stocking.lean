import KeyCustody.Proofs.Custodian.Consistency
import KeyCustody.Proofs.Keystore.Stocking

/-!
# Requests over a keystore in memory

A creation deposits material and files a record for it, or takes back what it has deposited; a destruction
withdraws material and then marks its record. Whatever fails without effect, material stays behind the
entry of one identifier.
-/

namespace KeyCustody

open Program
open Keystore (Creation)
open Keystore.InMemory (Made)

/-- Only calls on the catalog change this. -/
def World.OnCatalog {ρ : Type} (W : World ρ) : Prop :=
  ∀ c r a r', c.isOnCatalog = false → W c r a r' → r' = r

namespace Custodian

variable {tries : Nat} {caller : Caller} {id : String} {refs : List String} {x x' : Stock} {t : Trace}

/-! ## Undoing -/

theorem run_drop {label : String} {ref : String} {outcome : Ledger.Outcome × List (Compensation Action)}
    (h : Run (Stock.world .clean)
      (Ledger.undoAll [⟨label, ExceptT.lift ((Call.vault Action.make).drop ref)⟩]) x t outcome x') :
    x'.store = x.store ∧ x'.material = x.material.drop ref := by
  obtain ⟨_, x₁, _, -, dropped, ended⟩ | ⟨e, -, dropped⟩ := run_undoAll_cons h
  · obtain ⟨_, same, asked⟩ := Run.map_iff.1 dropped
    obtain ⟨rfl, store, material⟩ := Run.ask_iff.1 asked
    obtain ⟨-, -, rfl⟩ := Run.pure_iff.1 ended
    exact ⟨store, material⟩
  · obtain ⟨_, same, -⟩ := Run.map_iff.1 dropped
    cases same

/-- What a creation has deposited is taken back, unless its entry cannot be deleted. -/
theorem run_unmake {created : Creation Action} {u : Trace} {x₁ : Stock} {operation : String}
    {ledger : Ledger Action} (kept : x.Kept refs) (made : Made caller x u created x₁)
    (fresh : ∀ ref ∈ drawn u, ref ∉ refs)
    (h : Run (Stock.world .clean)
      ((Action.custodian (Action.memoryKeystore tries)).rollBack operation created.ledger) x₁ t ledger x') :
    x.Restores x' ∨ ∃ id ref material e, ref ∈ drawn u ∧ x.Deposits caller.tenant id ref material x' ∧
      ⟨.deleteEntry caller.tenant id, .error e⟩ ∈ t := by
  have incomplete : created.ledger.completed = false := by cases made <;> rfl
  obtain ⟨t₁, outcome, x₂, t₂, rfl, undone, counted, counts⟩ := run_rollBack_undoAll incomplete h
  obtain rfl : x' = x₂ := counted.unchanged fun v member _ _ answered => by
    obtain ⟨_, rfl⟩ := counts v member
    exact Stock.world_eq rfl answered
  cases made with
  | refused =>
    obtain ⟨-, -, rfl⟩ := Run.pure_iff.1 undone
    exact .inl (.refl kept.sound)
  | @unplaced _ _ ref _ _ drew store stored =>
    obtain ⟨store', dropped⟩ := run_drop undone
    refine .inl ⟨?_, fun tenant id => ?_, ?_⟩
    · rw [store', store]
      exact kept.sound
    · rw [store', store]
    · rw [dropped, stored]
      exact Keyed.erase_put.trans (Keyed.erase_unused (kept.unused (fresh ref drew)).2)
  | @placed id _ ref material _ drew deposits =>
    -- the entry goes first: where that fails, the material behind it is left as well
    obtain ⟨u₁, x₃, u₂, rfl, deleted, rest⟩ | ⟨e, -, failed⟩ := run_undoAll_cons undone
    · obtain ⟨rfl, answered, same⟩ := Run.ask_iff.1 deleted
      have admitted : Fault.clean.Admits (x₁.store.delete caller.tenant id) x₁.store (.ok ()) x₃.store :=
        answered
      have same : x₃.material = x₁.material := same
      obtain ⟨store, dropped⟩ := run_drop rest
      refine .inl (deposits.undone kept (fresh ref drew) ?_ ?_)
      · rw [store, admitted.ok]
      · rw [dropped, same]
    · obtain ⟨rfl, answered, same⟩ := Run.ask_iff.1 failed
      have admitted : Fault.clean.Admits (x₁.store.delete caller.tenant id) x₁.store (.error e) x'.store :=
        answered
      have same : x'.material = x₁.material := same
      have store : x'.store = x₁.store := admitted.error fun _ => Registry.Store.delete_error
      obtain rfl : x' = x₁ := congrArg₂ Stock.mk store same
      exact .inr ⟨id, ref, material, e, drew, deposits, List.mem_append_left _ List.mem_cons_self⟩

/-! ## What requests do -/

section
variable {ρ : Type} {W : World ρ} {r r' : ρ}

/-- What a creation comes to. -/
inductive Placing (W : World ρ) (caller : Caller) (secret : Secret) (t : Trace) (x x' : Stock) (r r' : ρ) :
    Prop
  /-- Nothing is left of it. -/
  | undone (restores : x.Restores x')
    (left : r' = r ∨ ∃ record e, W (.createRecord caller record) r (.error e) r')
  /-- The entry could not be deleted again. -/
  | halted {id ref : String} {material : Sealed} {e : Error} (drew : ref ∈ drawn t)
    (deposits : x.Deposits caller.tenant id ref material x')
    (failed : ⟨.deleteEntry caller.tenant id, .error e⟩ ∈ t)
  /-- There is a record for what is deposited. -/
  | placed {ref : String} {material : Sealed} {stored : Secret} (record : Secret) (drew : ref ∈ drawn t)
    (deposits : x.Deposits caller.tenant record.id ref material x') (standing : record.deleted = secret.deleted)
    (filed : W (.createRecord caller record) r (.ok stored) r')

/-- What a destruction comes to. -/
inductive Removing (W : World ρ) (caller : Caller) (id : String) (t : Trace) (x x' : Stock) (r r' : ρ) : Prop
  | refused (same : x' = x) (left : r' = r)
  /-- The entry could not be deleted. -/
  | halted {e : Error} (empties : x.Empties caller.tenant id x')
    (failed : ⟨.deleteEntry caller.tenant id, .error e⟩ ∈ t)
  | withdrawn {a : Except Error Secret} (withdraws : x.Withdraws caller.tenant id x')
    (marked : W (.deleteRecord caller id) r a r')

variable (onCatalog : W.OnCatalog)
include onCatalog

theorem run_offCatalog {α : Type} {p : Action α} {result : α → Prop} {a : α} {y y' : Stock × ρ}
    (apart : p.Keeps (·.isOnCatalog = false) result) (h : Run (both (Stock.world .clean) W) p y t a y') :
    y'.2 = y.2 ∧ result a :=
  apart.unchanged onCatalog h.right

theorem placing_of_run {secret : Secret} {result : Except Error Secret × Ledger Action} (kept : x.Kept refs)
    (fresh : ∀ ref ∈ drawn t, ref ∉ refs)
    (h : Run (both (Stock.world .clean) W)
      ((Action.custodian (Action.memoryKeystore tries)).place caller secret) (x, r) t result (x', r')) :
    Placing W caller secret t x x' r r' := by
  have apart := Keystore.apart_memoryKeystore tries
  have early : ∀ {u t' : Trace} {ref : String}, t = u ++ t' → ref ∈ drawn u → ref ∈ drawn t := by
    rintro u t' ref rfl drew
    exact drawn_append ▸ List.mem_append_left _ drew
  obtain ⟨_ | last, ledger⟩ := result
  · cases run_place_error h with
    | invalid => exact .undone (.refl kept.sound) (.inl rfl)
    | @refused created u _ y₁ _ made _ undone =>
      obtain ⟨rfl, fits⟩ := run_offCatalog onCatalog (apart.create caller _) made
      obtain ⟨left, -⟩ := run_offCatalog onCatalog (keeps_rollBack (fun _ => rfl) fits.undo) undone
      obtain restores | ⟨_, ref, _, _, drew, deposits, failed⟩ :=
        run_unmake kept (Keystore.InMemory.run_create made.left) (fun ref drew => fresh ref (early rfl drew))
          undone.left
      · exact .undone restores (.inl left)
      · exact .halted (early rfl drew) deposits (List.mem_append_right _ failed)
    | @unrecorded created _ _ record u _ y₁ y₂ y₃ _ made _ _ read declined undone =>
      obtain ⟨rfl, fits⟩ := run_offCatalog onCatalog (apart.create caller _) made
      obtain ⟨left, -⟩ := run_offCatalog onCatalog (keeps_rollBack (fun _ => rfl) fits.undo) undone
      obtain rfl : y₂ = y₁ := Prod.ext (Stock.world_eq rfl read.1) (onCatalog _ _ _ _ rfl read.2)
      obtain ⟨x₃, r₃⟩ := y₃
      obtain rfl : x₃ = y₂.1 := Stock.world_eq rfl declined.1
      obtain rfl : r' = r₃ := left
      obtain restores | ⟨_, ref, _, _, drew, deposits, failed⟩ :=
        run_unmake kept (Keystore.InMemory.run_create made.left)
          (fun ref drew => fresh ref (early (List.append_assoc ..) drew)) undone.left
      · exact .undone restores (.inr ⟨_, _, declined.2⟩)
      · exact .halted (early (List.append_assoc ..) drew) deposits (List.mem_append_right _ failed)
  · obtain ⟨created, id, now, stored, u, y₁, _, y₂, _, rfl, made, issued, asked, sent, -⟩ :=
      run_place_stored h
    obtain ⟨rfl, read⟩ := Run.ask_iff.1 asked
    obtain ⟨rfl, filed⟩ := Run.ask_iff.1 sent
    obtain ⟨rfl, fits⟩ := run_offCatalog onCatalog (apart.create caller _) made
    obtain rfl : y₂ = y₁ := Prod.ext (Stock.world_eq rfl read.1) (onCatalog _ _ _ _ rfl read.2)
    obtain rfl : x' = y₂.1 := Stock.world_eq rfl filed.1
    have made := Keystore.InMemory.run_create made.left
    obtain ⟨result, submitted, ledger⟩ := created
    obtain rfl : result = .ok id := issued
    cases made with
    | placed drew deposits =>
      exact .placed { submitted with id := id, creation := some now } (early rfl drew) deposits fits.deleted
        filed.2

theorem removing_of_run {whole : Bool} {ledger : Ledger Action}
    {result : Except Error (Option Secret) × Ledger Action}
    (h : Run (both (Stock.world .clean) W)
      ((Action.custodian (Action.memoryKeystore tries)).remove caller id whole ledger) (x, r) t result
      (x', r')) :
    Removing W caller id t x x' r r' := by
  have apart := Keystore.apart_memoryKeystore tries
  obtain ⟨_, o, y₁, _, rfl, observed, ended⟩ := Run.bind_iff.1 h
  have same : y₁.1 = x := Stock.run_idle (keeps_observeLast
    (Keystore.InMemory.payload_looks.widen fun _ => Call.altersStock_of_looks) whole) observed.left
  obtain ⟨left, -⟩ := run_offCatalog onCatalog (keeps_observeLast (apart.payload caller id) whole) observed
  obtain rfl : y₁ = (x, r) := Prod.ext same left
  cases o with
  | error _ =>
    obtain ⟨-, -, same⟩ := Run.pure_iff.1 ended
    obtain ⟨rfl, rfl⟩ := Prod.mk.inj same
    exact .refused rfl rfl
  | ok _ =>
    obtain ⟨_, ⟨result, _⟩, ⟨x₂, r₂⟩, _, rfl, deleted, marked⟩ := Run.bind_iff.1 ended
    obtain ⟨rfl, -⟩ := run_offCatalog onCatalog (apart.delete caller id _) deleted
    obtain ⟨_, _, _, _, rfl, withdrawn, passed⟩ := Run.bind_iff.1 deleted.left
    obtain ⟨rfl, same, rfl⟩ := Run.pure_iff.1 passed
    obtain ⟨rfl, rfl⟩ := Prod.mk.inj same
    have outcome := Keystore.InMemory.run_delete withdrawn
    cases result with
    | error _ =>
      obtain ⟨-, -, same⟩ := Run.pure_iff.1 marked
      obtain ⟨rfl, rfl⟩ := Prod.mk.inj same
      obtain ⟨-, rfl⟩ | ⟨⟨e, -, failed⟩, empties⟩ | ⟨accepted, -⟩ := outcome
      · exact .refused rfl rfl
      · refine .halted (e := e) empties (List.mem_append_right _ (List.mem_append_left _ ?_))
        exact List.mem_append_left _ failed
      · cases accepted
    | ok _ =>
      obtain ⟨_, a, _, _, rfl, asked, passed⟩ := Run.bind_iff.1 marked
      obtain ⟨-, -, rfl⟩ := Run.pure_iff.1 passed
      obtain ⟨rfl, answered⟩ := Run.ask_iff.1 asked
      obtain rfl : x' = _ := Stock.world_eq rfl answered.1
      obtain ⟨⟨_, refused⟩, -⟩ | ⟨⟨_, refused, -⟩, -⟩ | ⟨-, withdraws⟩ := outcome
      · cases refused
      · cases refused
      · exact .withdrawn withdraws answered.2

end

/-! ## Material stays behind its entry -/

/-- What requests keep, if no reference is drawn twice: material stays behind the entry of one identifier;
and behind every entry, unless one could not be deleted. -/
def Upkeep (x : Stock) (t : Trace) (x' : Stock) : Prop :=
  ∀ refs, x.Kept refs → (refs ++ drawn t).Nodup →
    x'.Kept (refs ++ drawn t) ∧ (Removes t → x.Full → x'.Full)

theorem chains_upkeep : Chains Upkeep where
  refl _ refs kept _ := ⟨kept.mono (List.subset_append_left refs _), fun _ full => full⟩
  append first rest refs kept distinct := by
    rw [drawn_append, ← List.append_assoc] at distinct ⊢
    obtain ⟨kept₁, full₁⟩ := first refs kept (List.nodup_append.1 distinct).1
    obtain ⟨kept', full'⟩ := rest _ kept₁ distinct
    refine ⟨kept', fun removes full => ?_⟩
    obtain ⟨before, after⟩ := removes_append.1 removes
    exact full' after (full₁ before full)

theorem upkeep_idle {α : Type} {p : Action α} (idle : p.Keeps (·.altersStock = false) fun _ => True) :
    Respects (Stock.world .clean) Upkeep p := by
  intro x t a x' h refs kept _
  obtain rfl := Stock.run_idle idle h
  exact ⟨kept.mono (List.subset_append_left refs _), fun _ full => full⟩

theorem onCatalog_free : World.OnCatalog (free : World Unit) := fun _ _ _ _ _ _ => rfl

theorem upkeep_place {secret : Secret} :
    Respects (Stock.world .clean) Upkeep
      ((Action.custodian (Action.memoryKeystore tries)).place caller secret) := by
  intro x t a x' h refs kept distinct
  have fresh : ∀ ref ∈ drawn t, ref ∉ refs := fun ref drew used =>
    (List.nodup_append.1 distinct).2.2 ref used ref drew rfl
  have deposited : ∀ {id ref : String} {material : Sealed}, ref ∈ drawn t →
      x.Deposits caller.tenant id ref material x' → x'.Kept (refs ++ drawn t) ∧ (x.Full → x'.Full) :=
    fun drew deposits => ⟨kept.deposit (fresh _ drew) (List.mem_append_right _ drew)
      (List.subset_append_left _ _) deposits, fun full => full.deposit deposits⟩
  cases placing_of_run onCatalog_free kept fresh h.beside with
  | undone restores =>
    exact ⟨(kept.restored restores).mono (List.subset_append_left _ _), fun _ full => full.restored restores⟩
  | halted drew deposits failed =>
    exact (deposited drew deposits).imp id fun full _ => full
  | placed _ drew deposits =>
    exact (deposited drew deposits).imp id fun full _ => full

theorem upkeep_remove {whole : Bool} {ledger : Ledger Action} :
    Respects (Stock.world .clean) Upkeep
      ((Action.custodian (Action.memoryKeystore tries)).remove caller id whole ledger) := by
  intro x t a x' h refs kept _
  have mono : ∀ {y : Stock}, y.Kept refs → y.Kept (refs ++ drawn t) :=
    fun kept => kept.mono (List.subset_append_left _ _)
  cases removing_of_run onCatalog_free h.beside with
  | refused same =>
    subst same
    exact ⟨mono kept, fun _ full => full⟩
  | halted empties failed =>
    exact ⟨mono (kept.empty empties), fun removes => absurd failed (removes _ _ _)⟩
  | withdrawn withdraws =>
    exact ⟨mono (kept.withdraw withdraws), fun _ full => full.withdraw kept withdraws⟩

theorem altersStock_of_shared {c : Call} (shared : c.isShared = true) : c.altersStock = false := by
  cases c with
  | getRecord | changeRecord | deleteRecord | listRecords | totalRecords | now | count => rfl
  | _ => cases shared

theorem idle_read : ((Action.custodian (Action.memoryKeystore tries)).read caller id).run.Keeps
    (·.altersStock = false) fun _ => True :=
  keeps_read (fun _ => altersStock_of_shared)
    (Keystore.InMemory.payload_looks.widen fun _ => Call.altersStock_of_looks)

theorem idle_readPage {q : Catalog.Query} :
    ((Action.custodian (Action.memoryKeystore tries)).readPage caller q).run.Keeps
      (·.altersStock = false) fun _ => True :=
  keeps_readPage (fun _ => altersStock_of_shared) fun _ =>
    Keystore.InMemory.check_looks.widen fun _ => Call.altersStock_of_looks

theorem upkeep_performAll {requests : List Request} :
    Respects (Stock.world .clean) Upkeep
      ((Action.custodian (Action.memoryKeystore tries)).performAll requests) := by
  refine .mapM chains_upkeep fun q _ => respects_perform chains_upkeep ?_ ?_ ?_ ?_ ?_ ?_
  · exact fun c => upkeep_idle ⟨rfl, fun _ => trivial⟩
  · exact fun _ _ _ _ => upkeep_place
  · exact fun _ => upkeep_idle idle_read
  · exact fun _ => upkeep_idle idle_readPage
  · exact fun _ => upkeep_idle ⟨rfl, fun _ => trivial⟩
  · exact fun _ _ => upkeep_remove

/-- Whatever is requested of a custodian over a keystore in memory, and whatever fails without effect, as
long as no reference is drawn twice: an identifier has one entry at most, a reference one piece of material,
and each piece of material is under the reference of exactly one entry. If no deletion of an entry has
failed, there is material behind every entry, so that entries and material correspond. -/
theorem material_never_orphaned {s : Registry.Store} {requests : List Request}
    {xs : List (Except Error Reply)} (empty : s = .table true [] ∨ s = .map []) (distinct : (drawn t).Nodup)
    (h : Run (Stock.world .clean) ((Action.custodian (Action.memoryKeystore tries)).performAll requests)
      ⟨s, []⟩ t xs x) :
    x.store.Unique ∧ (x.material.map (·.1)).Nodup ∧
      (∀ p ∈ x.material, ∃! key : Tenant × String, x.ref? key.1 key.2 = some p.1) ∧
      (Removes t → ∀ tenant id e, x.store.live? tenant id = some e →
        ∃ ref material, e.secret? = some ref ∧ (ref, material) ∈ x.material) := by
  obtain ⟨kept, full⟩ := upkeep_performAll _ _ _ _ h [] (Stock.kept_empty empty) distinct
  refine ⟨kept.sound.unique, kept.keyed, fun p member => ?_, fun removes tenant id e stands => ?_⟩
  · obtain ⟨tenant, id, names⟩ := kept.named p member
    exact ⟨(tenant, id), names, fun key other => kept.single _ _ _ _ p.1 other names⟩
  · obtain ⟨ref, -, named⟩ := kept.referred tenant id e stands
    obtain ⟨material, present⟩ :=
      full removes (Stock.full_empty empty) tenant id ref (Option.bind_eq_some_iff.2 ⟨e, stands, named⟩)
    exact ⟨ref, material, named, present⟩

/-- The identifier of a destroyed secret is issued again: its record is still there, so that creation is
taken back, and the material of the other tenant is all there is. -/
theorem material_never_orphaned_of_reuse :
    let a : Caller := ⟨⟨"s", "o"⟩, "a", none⟩
    let b : Caller := ⟨⟨"s", "p"⟩, "b", none⟩
    let secret : Secret := { Secret.named "key" with payload := some ⟨"material"⟩ }
    let action := (Action.custodian (Action.memoryKeystore 1)).performAll
      [.create a secret true, .create b secret true, .destroy a "k" false, .create a secret true]
    let x := (action.run (Depot.answer unissued) ⟨⟨.table true [], []⟩, [], 0⟩).2.stock
    x.material = [("rr", ⟨"material"⟩)] ∧
      (∃! key : Tenant × String, x.ref? key.1 key.2 = some "rr") ∧
      ∀ tenant id e, x.store.live? tenant id = some e → e.secret? = some "rr" := by
  intro a b secret action x
  let t := action.trace (Depot.answer unissued) ⟨⟨.table true [], []⟩, [], 0⟩
  have run := Run.of_answers (Depot.world_answer unissued) action ⟨⟨.table true [], []⟩, [], 0⟩
  have distinct : (drawn t).Nodup := by decide +kernel
  have removes : Removes t := removes_of_all (by decide +kernel)
  have shown : x.material = [("rr", ⟨"material"⟩)] := by decide +kernel
  obtain ⟨-, -, single, behind⟩ := material_never_orphaned (.inl rfl) distinct (Depot.run_stock run)
  have held : ("rr", ⟨"material"⟩) ∈ x.material := by decide +kernel
  refine ⟨shown, single _ held, fun tenant id e stands => ?_⟩
  obtain ⟨ref, material, named, present⟩ := behind removes tenant id e stands
  have only : ∀ p ∈ x.material, p.1 = "rr" := by decide +kernel
  exact only _ present ▸ named

end Custodian

end KeyCustody
