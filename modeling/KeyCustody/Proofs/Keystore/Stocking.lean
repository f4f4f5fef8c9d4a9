import KeyCustody.Proofs.Path
import KeyCustody.Proofs.Registry.Allocation
import KeyCustody.Proofs.Stock

/-!
# What a keystore in memory does to its stock

A creation deposits material, or what it has left is undone by its ledger. A deletion withdraws material
and its entry, the material first; reading changes nothing.
-/

namespace KeyCustody

open Program
open Registry (Entry Store)
open Keystore (Observation)

namespace Keystore.InMemory

variable {tries : Nat} {caller : Caller} {id : String} {s : Secret} {x x' : Stock} {t : Trace}

/-- The ledger of a creation that has put material under a reference. -/
def keptLedger (ref : String) : Ledger Action :=
  Ledger.empty.enter ⟨"delete memory material", ExceptT.lift ((Call.vault Action.make).drop ref)⟩

/-- The ledger of a creation that has added an entry as well. -/
def placedLedger (caller : Caller) (id ref : String) : Ledger Action :=
  (keptLedger ref).enter ⟨"delete translation row", Action.registry.delete caller.tenant id⟩

/-- How a creation ends: refused, with material that nothing names, or with a deposit. -/
inductive Made (caller : Caller) (x : Stock) (t : Trace) : Creation Action → Stock → Prop
  | refused {error : Error} {s : Secret} : Made caller x t ⟨.error error, s, .empty⟩ x
  | unplaced {error : Error} {s : Secret} {ref : String} {material : Sealed} {x' : Stock}
      (drew : ref ∈ drawn t) (store : x'.store = x.store)
      (kept : x'.material = x.material.put ref material) :
      Made caller x t ⟨.error error, s, keptLedger ref⟩ x'
  | placed {id : String} {s : Secret} {ref : String} {material : Sealed} {x' : Stock}
      (drew : ref ∈ drawn t) (deposits : x.Deposits caller.tenant id ref material x') :
      Made caller x t ⟨.ok id, s, placedLedger caller id ref⟩ x'

/-- What was done before a creation is not of its concern. -/
theorem Made.later {t' : Trace} {created : Creation Action} (h : Made caller x t created x') :
    Made caller x (t' ++ t) created x' := by
  have drew : ∀ ref, ref ∈ drawn t → ref ∈ drawn (t' ++ t) :=
    fun ref member => drawn_append ▸ List.mem_append_right _ member
  cases h with
  | refused => exact .refused
  | unplaced member store kept => exact .unplaced (drew _ member) store kept
  | placed member deposits => exact .placed (drew _ member) deposits

theorem run_allocate {e : Entry} {r : Except Error String}
    (h : Run (Stock.world .clean) (Action.registry.allocate (Call.candidates Action.make tries)
      caller.tenant e).run x t r x') :
    x'.material = x.material ∧ match r with
      | .ok id => x.store.add caller.tenant { e with issuedId := id } = (.ok (), x'.store)
      | .error _ => x'.store = x.store := by
  have store := h.map Stock.store fun _ _ _ _ answered => answered.1
  have material : Run Vault.Contents.world _ x.material t r x'.material :=
    h.map Stock.material fun _ _ _ _ answered => answered.2
  refine ⟨(Registry.searches_allocateWithin.unchanged ?_ material).1, ?_⟩
  · intro c v _ v' searches answered
    cases c with
    | putMaterial | findMaterial | dropMaterial => cases searches
    | _ => exact answered
  · cases r with
    | ok id => exact Registry.add_of_run_allocate store
    | error _ => exact Registry.store_of_run_allocate store

theorem run_keep {material : Sealed} {created : Creation Action}
    (h : Run (Stock.world .clean) (keep Action.registry (Call.vault Action.make)
      (Call.fresh Action.make) (Call.candidates Action.make tries) caller s material .empty) x t created
      x') : Made caller x t created x' := by
  obtain ⟨_, ref, x₁, _, rfl, asked, kept⟩ := Run.bind_iff.1 h
  obtain ⟨rfl, idle⟩ := Run.ask_iff.1 asked
  obtain rfl := Stock.world_eq rfl idle
  obtain ⟨_, _, x₂, _, rfl, asked, placed⟩ := Run.bind_iff.1 kept
  obtain ⟨rfl, store, material'⟩ := Run.ask_iff.1 asked
  obtain ⟨t₃, r, x₃, _, rfl, allocated, ended⟩ := Run.bind_iff.1 placed
  obtain ⟨same, outcome⟩ := run_allocate allocated
  have drew : ∀ u : Trace, ref ∈ drawn ([⟨.drawReference, ref⟩] ++ u) :=
    fun u => mem_drawn (List.mem_append_left _ List.mem_cons_self)
  have kept : x₃.material = x₁.material.put ref material := same.trans material'
  have store : x₂.store = x₁.store := store
  cases r with
  | error _ =>
    obtain ⟨rfl, rfl, rfl⟩ := Run.pure_iff.1 ended
    exact .unplaced (drew _) (outcome.trans store) kept
  | ok id =>
    obtain ⟨rfl, rfl, rfl⟩ := Run.pure_iff.1 ended
    refine .placed (drew _) ⟨?_, kept⟩
    rw [← store]
    exact outcome

/-- What is kept under an identifier that is issued has been deposited, and its secret is in use. -/
theorem run_keep_issued {material : Sealed} {created : Creation Action} (issued : created.result = .ok id)
    (h : Run (Stock.world .clean) (keep Action.registry (Call.vault Action.make)
      (Call.fresh Action.make) (Call.candidates Action.make tries) caller s material .empty) x t created
      x') : created.secret = s.enter inUse ∧ ∃ ref, x.Deposits caller.tenant id ref material x' := by
  obtain ⟨_, ref, x₁, _, -, asked, kept⟩ := Run.bind_iff.1 h
  obtain rfl := Stock.world_eq rfl (Run.ask_iff.1 asked).2
  obtain ⟨_, _, x₂, _, -, asked, placed⟩ := Run.bind_iff.1 kept
  obtain ⟨-, store, put⟩ := Run.ask_iff.1 asked
  have store : x₂.store = x₁.store := store
  have put : x₂.material = x₁.material.put ref material := put
  obtain ⟨_, y, x₃, _, -, allocated, ended⟩ := Run.bind_iff.1 placed
  obtain ⟨same, outcome⟩ := run_allocate allocated
  cases y with
  | error _ =>
    obtain ⟨-, rfl, -⟩ := Run.pure_iff.1 ended
    cases issued
  | ok id' =>
    obtain ⟨-, rfl, rfl⟩ := Run.pure_iff.1 ended
    obtain rfl := Except.ok.inj issued
    rw [store] at outcome
    exact ⟨rfl, ref, outcome, same.trans put⟩

theorem run_create {created : Creation Action}
    (h : Run (Stock.world .clean) ((Action.memoryKeystore tries).create caller s .empty) x t created x') :
    Made caller x t created x' := by
  have h : Run (Stock.world .clean) (create Action.registry (Call.vault Action.make)
    (Call.fresh Action.make) (Call.candidates Action.make tries) caller s .empty) x t created x' := h
  unfold create at h
  cases supplied : s.material? with
  | some material =>
    simp only [supplied] at h
    exact run_keep h
  | none =>
    simp only [supplied] at h
    cases key : s.keyParameters with
    | error _ =>
      simp only [key] at h
      obtain ⟨rfl, rfl, rfl⟩ := Run.pure_iff.1 h
      exact .refused
    | ok _ =>
      simp only [key] at h
      obtain ⟨t₁, material, x₁, t₂, rfl, generated, kept⟩ := Run.bind_iff.1 h
      obtain ⟨_, bytes, _, _, rfl, asked, passed⟩ := Run.bind_iff.1 generated
      obtain ⟨rfl, idle⟩ := Run.ask_iff.1 asked
      obtain ⟨rfl, -, rfl⟩ := Run.pure_iff.1 passed
      obtain rfl := Stock.world_eq rfl idle
      exact (run_keep kept).later

/-! ## Reading -/

theorem run_reference {r : Except Error String}
    (h : Run (Stock.world .clean) (reference Action.registry caller id).run x t r x') :
    x' = x ∧ ∀ ref, r = .ok ref → x.ref? caller.tenant id = some ref := by
  refine ⟨Stock.run_idle (reference_looks.widen fun _ => Call.altersStock_of_looks) h, ?_⟩
  rintro ref rfl
  obtain ⟨_, e, x₁, _, -, asked, ended⟩ := Run.bindExcept_ok_iff.1 h
  obtain ⟨-, answered, -⟩ := Run.ask_iff.1 asked
  have admitted : Fault.clean.Admits (x.store.get caller.tenant id, x.store) x.store (.ok e) x₁.store :=
    answered
  have stands := (Store.live?_of_get (congrArg Prod.fst admitted.ok)).2.1
  cases named : e.secret? with
  | none =>
    simp only [named] at ended
    obtain ⟨-, same, -⟩ := Run.throw_iff.1 ended
    cases same
  | some ref' =>
    simp only [named] at ended
    obtain ⟨-, rfl, -⟩ := Run.pureExcept_ok_iff.1 ended
    exact Option.bind_eq_some_iff.2 ⟨e, stands, named⟩

/-- With material behind every entry, nothing is reported to be lost. -/
theorem run_check {refs : List String} {phase : Phase} (kept : x.Kept refs) (full : x.Full)
    (h : Run (Stock.world .clean) ((Action.memoryKeystore tries).check caller id).run x t (.ok phase) x') :
    phase = .activation := by
  obtain ⟨_, ref, x₁, _, -, referred, rest⟩ := Run.bindExcept_ok_iff.1 h
  obtain ⟨rfl, names⟩ := run_reference referred
  obtain ⟨_, found, _, _, -, asked, ended⟩ := Run.bindLift_iff.1 rest
  obtain ⟨-, -, looked, -⟩ := Run.ask_iff.1 asked
  obtain ⟨material, present⟩ := full _ _ ref (names ref rfl)
  obtain rfl : found = some material :=
    looked.trans ((Keyed.lookup_eq_some_iff kept.keyed).2 present)
  obtain ⟨-, rfl, -⟩ := Run.pureExcept_ok_iff.1 ended
  rfl

/-! ## Deletion -/

/-- A deletion withdraws material and entry, or it fails: before it has done anything, or at the entry. -/
theorem run_delete {r : Except Error Unit}
    (h : Run (Stock.world .clean) (delete Action.registry (Call.vault Action.make) caller id).run x t r
      x') :
    (∃ e, r = .error e) ∧ x' = x ∨
      (∃ e, r = .error e ∧ ⟨.deleteEntry caller.tenant id, .error e⟩ ∈ t) ∧
        x.Empties caller.tenant id x' ∨
      r = .ok () ∧ x.Withdraws caller.tenant id x' := by
  obtain ⟨e, rfl, failed⟩ | ⟨_, ref, x₁, _, rfl, referred, rest⟩ := Run.bindExcept_iff.1 h
  · exact .inl ⟨⟨e, rfl⟩, (run_reference failed).1⟩
  obtain ⟨rfl, names⟩ := run_reference referred
  have names := names ref rfl
  obtain ⟨_, _, x₂, _, rfl, asked, ended⟩ := Run.bindLift_iff.1 rest
  obtain ⟨rfl, store, dropped⟩ := Run.ask_iff.1 asked
  obtain ⟨rfl, removed, material⟩ := Run.ask_iff.1 ended
  have store : x₂.store = x₁.store := store
  have dropped : x₂.material = x₁.material.drop ref := dropped
  have material : x'.material = x₂.material := material
  have admitted : Fault.clean.Admits (x₂.store.delete caller.tenant id) x₂.store r x'.store := removed
  right
  cases r with
  | error e =>
    refine .inl ⟨⟨e, rfl, ?_⟩, ref, names, ?_, material.trans dropped⟩
    · exact List.mem_append_right _ (List.mem_append_right _ List.mem_cons_self)
    · exact (admitted.error fun _ => Store.delete_error).trans store
  | ok _ =>
    refine .inr ⟨rfl, ref, names, ?_, material.trans dropped⟩
    rw [← store]
    exact (congrArg Prod.snd admitted.ok).symm

end Keystore.InMemory

end KeyCustody
