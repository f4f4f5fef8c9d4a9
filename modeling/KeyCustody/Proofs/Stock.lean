import KeyCustody.Keystore.InMemory
import KeyCustody.Proofs.Keyed
import KeyCustody.Proofs.Keystore.Frame
import KeyCustody.Proofs.Registry.Lookup
import KeyCustody.Proofs.World

/-!
# Entries and the material behind them

A keystore in memory has its entries in a store and its material in a vault. All material is under the
reference that the entry of one identifier names; an entry may name a reference that nothing is under.
-/

namespace KeyCustody

open Program
open Registry (Entry Store)

/-- Material is kept in a vault, which never fails. -/
def Vault.Contents.world : World Vault.Contents
  | .putMaterial ref material, v, _, v' => v' = v.put ref material
  | .findMaterial ref, v, x, v' => x = v.lookup ref ∧ v' = v
  | .dropMaterial ref, v, _, v' => v' = v.drop ref
  | _, v, _, v' => v' = v

/-- What a vault answers where the answers to other calls are given. -/
def Vault.Contents.answer (others : (c : Call) → c.Answer) (v : Vault.Contents) :
    (c : Call) → c.Answer × Vault.Contents
  | .putMaterial ref material => ((), v.put ref material)
  | .findMaterial ref => (v.lookup ref, v)
  | .dropMaterial ref => ((), v.drop ref)
  | c => (others c, v)

theorem Vault.Contents.world_answer (others : (c : Call) → c.Answer) (v : Vault.Contents) (c : Call) :
    Vault.Contents.world c v (v.answer others c).1 (v.answer others c).2 := by
  cases c with
  | findMaterial => exact ⟨rfl, rfl⟩
  | _ => rfl

/-- Whether a call may change entries or material. -/
def Call.altersStock : Call → Bool
  | addEntry .. | updateEntry .. | deleteEntry .. | putMaterial .. | dropMaterial .. => true
  | _ => false

theorem Call.altersStock_of_looks {c : Call} (looks : c.looks = true) : c.altersStock = false := by
  cases c with
  | getEntry | findMaterial => rfl
  | _ => cases looks

/-- The references that were drawn. -/
def drawn (t : Trace) : List String :=
  t.filterMap fun
    | ⟨.drawReference, ref⟩ => some ref
    | _ => none

@[simp] theorem drawn_append {t t' : Trace} : drawn (t ++ t') = drawn t ++ drawn t' :=
  List.filterMap_append

theorem mem_drawn {t : Trace} {ref : String} (h : ⟨.drawReference, ref⟩ ∈ t) : ref ∈ drawn t :=
  List.mem_filterMap.2 ⟨_, h, rfl⟩

/-- No deletion of an entry has failed. -/
def Removes (t : Trace) : Prop := ∀ tenant id error, ⟨.deleteEntry tenant id, .error error⟩ ∉ t

def failsRemoval : Event → Bool
  | ⟨.deleteEntry .., .error _⟩ => true
  | _ => false

theorem removes_of_all {t : Trace} (h : ∀ v ∈ t, failsRemoval v = false) : Removes t :=
  fun _ _ _ failed => Bool.noConfusion (h _ failed)

theorem removes_append {t t' : Trace} : Removes (t ++ t') ↔ Removes t ∧ Removes t' := by
  simp only [Removes, List.mem_append, not_or, forall_and]

structure Stock where
  store : Store
  material : Vault.Contents

namespace Stock

/-- Entries are kept in a store and material in a vault. -/
def world (f : Fault) : World Stock := fun c x a x' =>
  Store.world f c x.store a x'.store ∧ Vault.Contents.world c x.material a x'.material

theorem world_of_never {f : Fault} {c : Call} {x x' : Stock} {a : c.Answer} (h : world .never c x a x') :
    world f c x a x' :=
  ⟨Store.world_of_never h.1, h.2⟩

theorem world_eq {f : Fault} {c : Call} {x x' : Stock} {a : c.Answer} (idle : c.altersStock = false)
    (answered : world f c x a x') : x' = x := by
  obtain ⟨s, v⟩ := x
  obtain ⟨s', v'⟩ := x'
  obtain ⟨store, material⟩ : Store.world f c s a s' ∧ Vault.Contents.world c v a v' := answered
  cases c with
  | addEntry | updateEntry | deleteEntry | putMaterial | dropMaterial => cases idle
  | getEntry tenant id =>
    have admitted : f.Admits (s.get tenant id, s) s a s' := store
    obtain ⟨rfl, -⟩ := admitted.lookup
    exact congrArg (Stock.mk s') material
  | findMaterial ref =>
    obtain ⟨-, rfl⟩ := material
    exact congrArg (Stock.mk · v') store
  | _ => exact congrArg₂ Stock.mk store material

/-- A store stays sound whether or not calls on it fail. -/
theorem sound_world {f : Fault} {c : Call} {x x' : Stock} {a : c.Answer} (sound : x.store.Sound)
    (answered : world f c x a x') : x'.store.Sound := by
  obtain ⟨answered, -⟩ := answered
  cases c with
  | addEntry tenant e =>
    have admitted : f.Admits (x.store.add tenant e) x.store a x'.store := answered
    rcases admitted.state with same | same
    · rwa [same]
    · rw [same]
      exact Store.sound_add sound
  | updateEntry tenant e =>
    have admitted : f.Admits (x.store.update tenant e) x.store a x'.store := answered
    rcases admitted.state with same | same
    · rwa [same]
    · rw [same]
      exact Store.sound_update sound
  | deleteEntry tenant id =>
    have admitted : f.Admits (x.store.delete tenant id) x.store a x'.store := answered
    rcases admitted.state with same | same
    · rwa [same]
    · rw [same]
      exact Store.sound_delete sound
  | getEntry tenant id =>
    have admitted : f.Admits (x.store.get tenant id, x.store) x.store a x'.store := answered
    rwa [admitted.lookup.1]
  | _ =>
    have same : x'.store = x.store := answered
    rwa [same]

/-- A program of calls that change neither leaves both. -/
theorem run_idle {α : Type} {f : Fault} {p : Action α} {result : α → Prop} {x x' : Stock} {t : Trace} {a : α}
    (idle : p.Keeps (·.altersStock = false) result) (h : Run (world f) p x t a x') : x' = x :=
  (idle.unchanged (fun _ _ _ _ => world_eq) h).1

/-- The reference that the entry of an identifier names. -/
def ref? (tenant : Tenant) (id : String) (x : Stock) : Option String :=
  (x.store.live? tenant id).bind Entry.secret?

/-- All material is behind the entry of one identifier; the entries name references that were drawn. -/
structure Kept (refs : List String) (x : Stock) : Prop where
  sound : x.store.Sound
  keyed : (x.material.map (·.1)).Nodup
  referred : ∀ tenant id e, x.store.live? tenant id = some e → ∃ ref ∈ refs, e.secret? = some ref
  single : ∀ tenant id tenant' id' ref, x.ref? tenant id = some ref → x.ref? tenant' id' = some ref →
    (tenant, id) = (tenant', id')
  named : ∀ p ∈ x.material, ∃ tenant id, x.ref? tenant id = some p.1

/-- There is material behind every entry. -/
def Full (x : Stock) : Prop :=
  ∀ tenant id ref, x.ref? tenant id = some ref → ∃ material, (ref, material) ∈ x.material

/-! ## Changes -/

/-- Material is kept under a reference, and an identifier is issued for it. -/
def Deposits (tenant : Tenant) (id ref : String) (material : Sealed) (x x' : Stock) : Prop :=
  x.store.add tenant { Entry.ofSecret ref with issuedId := id } = (.ok (), x'.store) ∧
    x'.material = x.material.put ref material

/-- The material behind an identifier is dropped. -/
def Empties (tenant : Tenant) (id : String) (x x' : Stock) : Prop :=
  ∃ ref, x.ref? tenant id = some ref ∧ x'.store = x.store ∧ x'.material = x.material.drop ref

/-- The material behind an identifier is dropped, and the identifier given up. -/
def Withdraws (tenant : Tenant) (id : String) (x x' : Stock) : Prop :=
  ∃ ref, x.ref? tenant id = some ref ∧ x'.store = (x.store.delete tenant id).2 ∧
    x'.material = x.material.drop ref

/-- As far as lookups can tell, nothing has changed. -/
structure Restores (x x' : Stock) : Prop where
  sound : x'.store.Sound
  live : ∀ tenant id, x'.store.live? tenant id = x.store.live? tenant id
  material : x'.material = x.material

variable {refs refs' : List String} {x x' : Stock} {tenant tenant' : Tenant} {id id' ref ref' : String}
  {material : Sealed}

theorem ref?_empty {s : Store} (empty : s = .table true [] ∨ s = .map []) : ref? tenant id ⟨s, []⟩ = none := by
  obtain rfl | rfl := empty <;> rfl

theorem kept_empty {s : Store} (empty : s = .table true [] ∨ s = .map []) : Kept [] ⟨s, []⟩ where
  sound := by
    obtain rfl | rfl := empty
    · exact Store.sound_empty_table
    · exact Store.sound_empty_map
  keyed := List.nodup_nil
  referred _ _ _ stands := by obtain rfl | rfl := empty <;> cases stands
  single _ _ _ _ _ names := by cases (ref?_empty empty).symm.trans names
  named := List.forall_mem_nil _

theorem full_empty {s : Store} (empty : s = .table true [] ∨ s = .map []) : Full ⟨s, []⟩ :=
  fun _ _ _ names => by cases (ref?_empty empty).symm.trans names

theorem Kept.mono (h : Kept refs x) (part : refs ⊆ refs') : Kept refs' x where
  sound := h.sound
  keyed := h.keyed
  referred tenant id e stands := by
    obtain ⟨ref, member, named⟩ := h.referred tenant id e stands
    exact ⟨ref, part member, named⟩
  single := h.single
  named := h.named

theorem Kept.restored (h : Kept refs x) (restores : Restores x x') : Kept refs x' := by
  have same : ∀ tenant id, x'.ref? tenant id = x.ref? tenant id := fun tenant id => by
    rw [ref?, restores.live, ref?]
  refine ⟨restores.sound, restores.material ▸ h.keyed, fun tenant id e stands => ?_, ?_, ?_⟩
  · exact h.referred tenant id e ((restores.live tenant id).symm.trans stands)
  · simpa only [same] using h.single
  · simpa only [restores.material, same] using h.named

theorem Restores.refl (sound : x.store.Sound) : Restores x x where
  sound := sound
  live _ _ := rfl
  material := rfl

/-- A reference that was not drawn is not in use. -/
theorem Kept.unused (h : Kept refs x) (fresh : ref ∉ refs) :
    (∀ tenant id, x.ref? tenant id ≠ some ref) ∧ ∀ p ∈ x.material, p.1 ≠ ref := by
  have unnamed : ∀ tenant id, x.ref? tenant id ≠ some ref := by
    intro tenant id names
    obtain ⟨e, stands, named⟩ := Option.bind_eq_some_iff.1 names
    obtain ⟨ref', member, named'⟩ := h.referred tenant id e stands
    obtain rfl := Option.some.inj (named'.symm.trans named)
    exact fresh member
  refine ⟨unnamed, fun p member same => ?_⟩
  obtain ⟨tenant, id, names⟩ := h.named p member
  exact unnamed tenant id (same ▸ names)

/-! ### Deposits -/

section
variable (h : Deposits tenant id ref material x x')
include h

theorem Deposits.stands : ∃ e, x'.store.live? tenant id = some e ∧ e.secret? = some ref := by
  obtain ⟨e, stands, same⟩ := Store.live?_add_self h.1
  refine ⟨e, stands, (Entry.secret?_congr same).trans ?_⟩
  have full := Entry.isEmpty_of_check (Store.check_of_add h.1)
  by_cases present : ref = ""
  · subst present
    cases full
  · exact Entry.secret?_named ⟨id, none, none⟩ present

theorem Deposits.ref?_self : x'.ref? tenant id = some ref :=
  Option.bind_eq_some_iff.2 h.stands

theorem Deposits.live?_other (different : (tenant', id') ≠ (tenant, id)) :
    x'.store.live? tenant' id' = x.store.live? tenant' id' :=
  Store.live?_add_other h.1 different

theorem Deposits.ref?_other (different : (tenant', id') ≠ (tenant, id)) :
    x'.ref? tenant' id' = x.ref? tenant' id' := by
  rw [ref?, h.live?_other different, ref?]

/-- What is under another reference than that drawn is under another identifier. -/
theorem Deposits.old (different : ref ≠ ref') (names : x'.ref? tenant' id' = some ref') :
    x.ref? tenant' id' = some ref' := by
  by_cases same : (tenant', id') = (tenant, id)
  · obtain ⟨rfl, rfl⟩ := Prod.mk.inj same
    exact absurd (Option.some.inj (h.ref?_self.symm.trans names)) different
  · rwa [← h.ref?_other same]

end

theorem Kept.deposit (h : Kept refs x) (fresh : ref ∉ refs) (member : ref ∈ refs')
    (part : refs ⊆ refs') (deposits : Deposits tenant id ref material x x') : Kept refs' x' := by
  obtain ⟨unnamed, -⟩ := h.unused fresh
  have free : x.store.live? tenant id = none := Store.live?_add_before h.sound.unique deposits.1
  -- nothing named the reference before, so that only the new entry does
  have own : ∀ tenant' id', x'.ref? tenant' id' = some ref → (tenant', id') = (tenant, id) := by
    intro tenant' id' names
    by_contra different
    exact unnamed tenant' id' ((deposits.ref?_other different).symm.trans names)
  refine ⟨(Store.enters_add deposits.1).sound h.sound, ?_, fun tenant' id' e stands => ?_,
    fun tenant₁ id₁ tenant₂ id₂ ref' names₁ names₂ => ?_, fun p kept => ?_⟩
  · rw [deposits.2]
    exact Keyed.nodup_put h.keyed
  · by_cases same : (tenant', id') = (tenant, id)
    · obtain ⟨rfl, rfl⟩ := Prod.mk.inj same
      obtain ⟨e', stands', named⟩ := deposits.stands
      obtain rfl := Option.some.inj (stands'.symm.trans stands)
      exact ⟨ref, member, named⟩
    · obtain ⟨ref', old, named⟩ := h.referred tenant' id' e
        ((deposits.live?_other same).symm.trans stands)
      exact ⟨ref', part old, named⟩
  · by_cases same : ref = ref'
    · subst same
      exact (own _ _ names₁).trans (own _ _ names₂).symm
    · exact h.single _ _ _ _ ref' (deposits.old same names₁) (deposits.old same names₂)
  · rw [deposits.2] at kept
    obtain rfl | old := List.mem_cons.1 kept
    · exact ⟨tenant, id, deposits.ref?_self⟩
    · obtain ⟨tenant', id', names⟩ := h.named p (List.mem_filter.1 old).1
      refine ⟨tenant', id', ?_⟩
      -- the identifier issued was free: no material was behind it
      rw [deposits.ref?_other fun same => ?_]
      · exact names
      · obtain ⟨rfl, rfl⟩ := Prod.mk.inj same
        rw [ref?, free] at names
        cases names

theorem Full.deposit (h : Full x) (deposits : Deposits tenant id ref material x x') : Full x' := by
  intro tenant' id' ref' names
  rw [deposits.2]
  by_cases same : ref = ref'
  · subst same
    exact ⟨material, List.mem_cons_self⟩
  · obtain ⟨material', kept⟩ := h tenant' id' ref' (deposits.old same names)
    refine ⟨material', List.mem_cons_of_mem _ (List.mem_filter.2 ⟨kept, ?_⟩)⟩
    simpa using Ne.symm same

/-- A deposit that is taken back leaves everything as it was. -/
theorem Deposits.undone {x'' : Stock} (h : Kept refs x) (fresh : ref ∉ refs)
    (deposits : Deposits tenant id ref material x x')
    (store : x''.store = (x'.store.delete tenant id).2) (dropped : x''.material = x'.material.drop ref) :
    Restores x x'' where
  sound := store ▸ Store.sound_delete ((Store.enters_add deposits.1).sound h.sound)
  live tenant' id' := by
    rw [store]
    by_cases same : (tenant', id') = (tenant, id)
    · obtain ⟨rfl, rfl⟩ := Prod.mk.inj same
      rw [Store.live?_delete_self (Store.isClosed_add deposits.1).2]
      exact (Store.live?_add_before h.sound.unique deposits.1).symm
    · rw [Store.live?_delete_other same, deposits.live?_other same]
  material := by
    rw [dropped, deposits.2]
    exact Keyed.erase_put.trans (Keyed.erase_unused (h.unused fresh).2)

/-! ### Withdrawals -/

theorem Kept.empty (h : Kept refs x) (empties : Empties tenant id x x') : Kept refs x' := by
  obtain ⟨ref, -, store, material⟩ := empties
  have same : ∀ tenant id, x'.ref? tenant id = x.ref? tenant id := fun tenant id => by
    rw [ref?, store, ref?]
  refine ⟨store ▸ h.sound, ?_, store ▸ h.referred, ?_, fun p kept => ?_⟩
  · rw [material]
    exact Keyed.nodup_erase h.keyed
  · simpa only [same] using h.single
  · rw [material] at kept
    simpa only [same] using h.named p (List.mem_filter.1 kept).1

section
variable (h : Withdraws tenant id x x')
include h

theorem Withdraws.live?_self (isOpen : x.store.isClosed = false) :
    x'.store.live? tenant id = none := by
  obtain ⟨_, -, store, -⟩ := h
  rw [store, Store.live?_delete_self isOpen]

theorem Withdraws.live?_other (different : (tenant', id') ≠ (tenant, id)) :
    x'.store.live? tenant' id' = x.store.live? tenant' id' := by
  obtain ⟨_, -, store, -⟩ := h
  rw [store, Store.live?_delete_other different]

theorem Withdraws.ref?_other (different : (tenant', id') ≠ (tenant, id)) :
    x'.ref? tenant' id' = x.ref? tenant' id' := by
  rw [ref?, h.live?_other different, ref?]

/-- What stands is under another identifier. -/
theorem Withdraws.old {e : Entry} (isOpen : x.store.isClosed = false)
    (stands : x'.store.live? tenant' id' = some e) : (tenant', id') ≠ (tenant, id) := by
  rintro same
  obtain ⟨rfl, rfl⟩ := Prod.mk.inj same
  cases (h.live?_self isOpen).symm.trans stands

theorem Withdraws.ref?_old {ref : String} (isOpen : x.store.isClosed = false)
    (names : x'.ref? tenant' id' = some ref) :
    (tenant', id') ≠ (tenant, id) ∧ x.ref? tenant' id' = some ref := by
  obtain ⟨e, stands, -⟩ := Option.bind_eq_some_iff.1 names
  have different := h.old isOpen stands
  exact ⟨different, (h.ref?_other different).symm.trans names⟩

end

theorem Kept.withdraw (h : Kept refs x) (withdraws : Withdraws tenant id x x') : Kept refs x' := by
  have isOpen := h.sound.isOpen
  have ⟨ref, own, store, material⟩ := withdraws
  refine ⟨store ▸ Store.sound_delete h.sound, ?_, fun tenant' id' e stands => ?_,
    fun tenant₁ id₁ tenant₂ id₂ ref' names₁ names₂ => ?_, fun p kept => ?_⟩
  · rw [material]
    exact Keyed.nodup_erase h.keyed
  · have different := withdraws.old isOpen stands
    exact h.referred tenant' id' e ((withdraws.live?_other different).symm.trans stands)
  · exact h.single _ _ _ _ ref' (withdraws.ref?_old isOpen names₁).2 (withdraws.ref?_old isOpen names₂).2
  · rw [material] at kept
    obtain ⟨kept, other⟩ := List.mem_filter.1 kept
    obtain ⟨tenant', id', names⟩ := h.named p kept
    refine ⟨tenant', id', ?_⟩
    rw [withdraws.ref?_other fun same => ?_]
    · exact names
    · obtain ⟨rfl, rfl⟩ := Prod.mk.inj same
      exact of_decide_eq_true other (Option.some.inj (names.symm.trans own))

theorem Full.withdraw (h : Full x) (kept : Kept refs x) (withdraws : Withdraws tenant id x x') :
    Full x' := by
  intro tenant' id' ref' names
  obtain ⟨different, names⟩ := withdraws.ref?_old kept.sound.isOpen names
  obtain ⟨material, present⟩ := h tenant' id' ref' names
  obtain ⟨ref, own, -, dropped⟩ := withdraws
  -- what is dropped was behind one identifier only
  have other : ref' ≠ ref := by
    rintro rfl
    exact different (kept.single _ _ _ _ ref' names own)
  exact ⟨material, dropped ▸ List.mem_filter.2 ⟨present, decide_eq_true other⟩⟩

theorem Full.restored (h : Full x) (restores : Restores x x') : Full x' := by
  intro tenant id ref names
  rw [ref?, restores.live] at names
  rw [restores.material]
  exact h tenant id ref names

/-- What stock answers where the answers to other calls are given. -/
def answer (others : (c : Call) → c.Answer) (x : Stock) (c : Call) : c.Answer × Stock :=
  let (a, material) := x.material.answer (fun c => (x.store.answer others c).1) c
  (a, ⟨(x.store.answer others c).2, material⟩)

theorem world_answer {f : Fault} (others : (c : Call) → c.Answer) (x : Stock) (c : Call) :
    world f c x (x.answer others c).1 (x.answer others c).2 := by
  refine ⟨?_, x.material.world_answer _ c⟩
  cases c with
  | putMaterial | findMaterial | dropMaterial => rfl
  | _ => exact x.store.world_answer others _

end Stock

/-- Stock and records where no call fails. -/
abbrev unfailing : World (Stock × Catalog.Records) :=
  both (Stock.world .never) (Catalog.Records.world .never)

/-- Stock and records, with how many references have been drawn. -/
structure Depot where
  stock : Stock
  records : Catalog.Records := []
  drawn : Nat := 0

namespace Depot

/-- What a depot answers where the answers to other calls are given; it draws another reference each time. -/
def answer (others : (c : Call) → c.Answer) (y : Depot) : (c : Call) → c.Answer × Depot
  | .drawReference => (String.ofList (List.replicate (y.drawn + 1) 'r'), { y with drawn := y.drawn + 1 })
  | c =>
    let (a, stock) := y.stock.answer (fun c => (y.records.answer others c).1) c
    (a, { y with stock := stock, records := (y.records.answer others c).2 })

/-- Each call is answered in one way. -/
def world (others : (c : Call) → c.Answer) : World Depot := fun c y a y' => (a, y') = y.answer others c

theorem world_answer (others : (c : Call) → c.Answer) (y : Depot) (c : Call) :
    world others c y (y.answer others c).1 (y.answer others c).2 :=
  rfl

theorem world_parts {f f' : Fault} (others : (c : Call) → c.Answer) (y : Depot) (c : Call) :
    both (Stock.world f) (Catalog.Records.world f') c (y.stock, y.records) (y.answer others c).1
      ((y.answer others c).2.stock, (y.answer others c).2.records) := by
  cases c with
  | drawReference => exact ⟨⟨rfl, rfl⟩, rfl⟩
  | addEntry | getEntry | updateEntry | deleteEntry => exact ⟨y.stock.world_answer _ _, rfl⟩
  | putMaterial | findMaterial | dropMaterial => exact ⟨y.stock.world_answer _ _, rfl⟩
  | _ => exact ⟨y.stock.world_answer _ _, y.records.world_answer others _⟩

/-- What a depot does is a run on its stock and its records. -/
theorem run_parts {f f' : Fault} {α : Type} {others : (c : Call) → c.Answer} {p : Action α} {y y' : Depot}
    {t : Trace} {a : α} (h : Run (world others) p y t a y') :
    Run (both (Stock.world f) (Catalog.Records.world f')) p (y.stock, y.records) t a
      (y'.stock, y'.records) := by
  refine h.map (fun y => (y.stock, y.records)) fun c y x y' answered => ?_
  obtain ⟨rfl, rfl⟩ := Prod.mk.inj answered
  exact y.world_parts others c

theorem run_stock {f : Fault} {α : Type} {others : (c : Call) → c.Answer} {p : Action α} {y y' : Depot}
    {t : Trace} {a : α} (h : Run (world others) p y t a y') : Run (Stock.world f) p y.stock t a y'.stock :=
  (@run_parts f .any _ _ _ _ _ _ _ h).left

theorem run_records {f : Fault} {α : Type} {others : (c : Call) → c.Answer} {p : Action α} {y y' : Depot}
    {t : Trace} {a : α} (h : Run (world others) p y t a y') :
    Run (Catalog.Records.world f) p y.records t a y'.records :=
  (@run_parts .any f _ _ _ _ _ _ _ h).right

end Depot

end KeyCustody
