import KeyCustody.Proofs.Keystore.Working
import KeyCustody.Proofs.Stock
import KeyCustody.Proofs.Trusting

/-!
# What belongs to a tenant

Entries and records are kept under the keys of tenants. A call for a tenant is answered from its share of
them, and changes nothing but that. Material is shared out by whose references it is under.
-/

namespace KeyCustody

open Program
open Registry (Entry Row Store Table)

/-! ## Shares -/

namespace Keyed

variable {ν : Type} {tenant tenant' : Tenant} {id : String} {v : ν} {l : List ((Tenant × String) × ν)}

/-- What is kept under the keys of a tenant. -/
def share (tenant : Tenant) (l : List ((Tenant × String) × ν)) : List ((Tenant × String) × ν) :=
  l.filter fun e => e.1.1 = tenant

theorem lookup_share : (share tenant l).lookup (tenant, id) = l.lookup (tenant, id) := by
  induction l with
  | nil => rfl
  | cons e l ih =>
    obtain ⟨⟨owner, key⟩, v⟩ := e
    by_cases own : owner = tenant
    · rw [share, List.filter_cons_of_pos (by simp [own]), List.lookup_cons, List.lookup_cons, ← share, ih]
    · have skipped : ((tenant, id) == (owner, key)) = false := by simp [Ne.symm own]
      rw [share, List.filter_cons_of_neg (by simp [own]), ← share, ih, List.lookup_cons, skipped]

theorem share_erase {key : Tenant × String} :
    share tenant (l.filter (·.1 ≠ key)) = (share tenant l).filter (·.1 ≠ key) :=
  List.filter_comm ..

theorem share_put : share tenant (((tenant, id), v) :: l.filter (·.1 ≠ (tenant, id))) =
    ((tenant, id), v) :: (share tenant l).filter (·.1 ≠ (tenant, id)) := by
  rw [share, List.filter_cons_of_pos (by simp), ← share, share_erase]

section
variable (different : tenant' ≠ tenant)
include different

theorem share_erase_other : share tenant (l.filter (·.1 ≠ (tenant', id))) = share tenant l := by
  rw [share_erase]
  refine erase_unused fun e member same => ?_
  have own : e.1.1 = tenant := of_decide_eq_true (List.mem_filter.1 member).2
  rw [same] at own
  exact different own

theorem share_put_other :
    share tenant (((tenant', id), v) :: l.filter (·.1 ≠ (tenant', id))) = share tenant l := by
  rw [share, List.filter_cons_of_neg (by simp [different]), ← share, share_erase_other different]

end

end Keyed

namespace Registry

variable {tenant tenant' : Tenant} {id : String} {e : Entry}

namespace Table

variable {t : Table} {f : Row → Row}

def share (tenant : Tenant) (t : Table) : Table := t.filter fun r => r.tenant = tenant

theorem tenant_of_isFor {r : Row} (h : r.isFor tenant id = true) : r.tenant = tenant := by
  simp only [Row.isFor, Bool.and_eq_true, decide_eq_true_eq] at h
  exact h.1

theorem tenant_of_isLive {r : Row} (h : r.isLive tenant id = true) : r.tenant = tenant := by
  simp only [Row.isLive, Bool.and_eq_true] at h
  exact tenant_of_isFor h.1

theorem find?_share {p : Row → Bool} (own : ∀ r, p r = true → r.tenant = tenant) :
    (t.share tenant).find? p = t.find? p := by
  rw [share, List.find?_filter]
  refine congrArg (t.find? ·) (funext fun r => ?_)
  cases found : p r with
  | false => simp
  | true => simp [own r found]

theorem share_map (keeps : ∀ r, (f r).tenant = r.tenant) :
    share tenant (t.map f) = (t.share tenant).map f := by
  rw [share, List.filter_map, share]
  refine congrArg (List.map f) (List.filter_congr fun r _ => ?_)
  simp [keeps r]

theorem share_map_other (keeps : ∀ r, (f r).tenant = r.tenant) (others : ∀ r, r.tenant = tenant → f r = r) :
    share tenant (t.map f) = t.share tenant := by
  rw [share_map keeps]
  refine (List.map_congr_left fun r member => ?_).trans (List.map_id _)
  exact others r (of_decide_eq_true (List.mem_filter.1 member).2)

theorem tenant_revive (r : Row) :
    (if r.isFor tenant id then { r.refer e with deleted := false } else r).tenant = r.tenant := by
  split_ifs <;> rfl

theorem tenant_bury (r : Row) :
    (if r.isLive tenant id then { r with deleted := true } else r).tenant = r.tenant := by
  split_ifs <;> rfl

theorem get_share : (t.share tenant).get tenant id = t.get tenant id := by
  unfold Table.get
  rw [find?_share fun _ => tenant_of_isLive]

theorem add_share :
    (t.share tenant).add tenant e = ((t.add tenant e).1, (t.add tenant e).2.share tenant) := by
  unfold Table.add
  rw [find?_share fun _ => tenant_of_isFor]
  cases e.check with
  | error _ => rfl
  | ok _ =>
    cases t.find? (Row.isFor tenant e.issuedId) with
    | none => simp [share, Row.ofEntry, Row.refer]
    | some r =>
      by_cases deleted : r.deleted = true
      · simp only [deleted, if_true]
        rw [share_map tenant_revive]
      · simp only [deleted, Bool.false_eq_true, if_false]

theorem delete_share :
    (t.share tenant).delete tenant id = ((t.delete tenant id).1, (t.delete tenant id).2.share tenant) :=
  congrArg (Prod.mk _) (share_map tenant_bury).symm

section
variable (different : tenant' ≠ tenant)
include different

theorem share_add_other : (t.add tenant' e).2.share tenant = t.share tenant := by
  unfold Table.add
  cases e.check with
  | error _ => rfl
  | ok _ =>
    cases t.find? (Row.isFor tenant' e.issuedId) with
    | none => simp [share, Row.ofEntry, Row.refer, different]
    | some r =>
      by_cases deleted : r.deleted = true
      · simp only [deleted, if_true]
        refine share_map_other tenant_revive fun r own => if_neg fun mine => ?_
        exact different ((tenant_of_isFor mine).symm.trans own)
      · simp only [deleted, Bool.false_eq_true, if_false]

theorem share_delete_other : (t.delete tenant' id).2.share tenant = t.share tenant :=
  share_map_other tenant_bury fun _ own => if_neg fun mine =>
    different ((tenant_of_isLive mine).symm.trans own)

end

end Table

namespace Map

variable {m : Map}

theorem get_share : get tenant id (Keyed.share tenant m) = m.get tenant id := by
  unfold Map.get
  rw [Keyed.lookup_share]

theorem add_share : add tenant e (Keyed.share tenant m) =
    ((m.add tenant e).1, Keyed.share tenant (m.add tenant e).2) := by
  unfold Map.add
  rw [Keyed.lookup_share]
  cases e.check with
  | error _ => rfl
  | ok _ =>
    by_cases used : (m.lookup (tenant, e.issuedId)).isSome = true
    · simp only [used, if_true]
    · simp only [used, Bool.false_eq_true, if_false]
      exact congrArg (Prod.mk _) Keyed.share_put.symm

section
variable (different : tenant' ≠ tenant)
include different

theorem share_add_other : Keyed.share tenant (m.add tenant' e).2 = Keyed.share tenant m := by
  unfold Map.add
  cases e.check with
  | error _ => rfl
  | ok _ =>
    by_cases used : (m.lookup (tenant', e.issuedId)).isSome = true
    · simp only [used, if_true]
    · simp only [used, Bool.false_eq_true, if_false]
      exact Keyed.share_put_other different

end

end Map

namespace Store

variable {s : Store}

/-- What a store has of a tenant. -/
def share (tenant : Tenant) : Store → Store
  | table isReady rows => table isReady (rows.share tenant)
  | map entries => map (Keyed.share tenant entries)

theorem get_share : (s.share tenant).get tenant id = s.get tenant id := by
  match s with
  | table true _ => exact Table.get_share
  | table false _ => rfl
  | map _ => exact Map.get_share

theorem add_share :
    (s.share tenant).add tenant e = ((s.add tenant e).1, (s.add tenant e).2.share tenant) := by
  match s with
  | table true _ => exact congrArg (fun p => (p.1, table true p.2)) Table.add_share
  | table false _ => rfl
  | map _ => exact congrArg (fun p => (p.1, map p.2)) Map.add_share

theorem delete_share :
    (s.share tenant).delete tenant id = ((s.delete tenant id).1, (s.delete tenant id).2.share tenant) := by
  match s with
  | table true _ => exact congrArg (fun p => (p.1, table true p.2)) Table.delete_share
  | table false _ => rfl
  | map _ => exact congrArg (fun m => (Except.ok (), map m)) Keyed.share_erase.symm

section
variable (different : tenant' ≠ tenant)
include different

theorem share_add_other : (s.add tenant' e).2.share tenant = s.share tenant := by
  match s with
  | table true _ => exact congrArg (table true) (Table.share_add_other different)
  | table false _ => rfl
  | map _ => exact congrArg map (Map.share_add_other different)

theorem share_delete_other : (s.delete tenant' id).2.share tenant = s.share tenant := by
  match s with
  | table true _ => exact congrArg (table true) (Table.share_delete_other different)
  | table false _ => rfl
  | map _ => exact congrArg map (Keyed.share_erase_other different)

end

end Store

end Registry

namespace Catalog.Records

open Keyed (share)

variable {r : Records} {tenant tenant' : Tenant} {id : String} {s : Secret} {now : Time.Instant} {c : PhaseChange}

theorem create_share : create tenant now s (share tenant r) =
    ((r.create tenant now s).1, share tenant (r.create tenant now s).2) := by
  unfold Records.create
  rw [Keyed.lookup_share]
  split_ifs
  · rfl
  · rfl
  · exact congrArg (Prod.mk _) Keyed.share_put.symm

theorem get_share : get tenant id (share tenant r) = r.get tenant id := Keyed.lookup_share

theorem change_share : change tenant id c (share tenant r) =
    ((r.change tenant id c).1, share tenant (r.change tenant id c).2) := by
  unfold Records.change
  rw [Keyed.lookup_share]
  cases r.lookup (tenant, id) with
  | none => rfl
  | some _ => exact congrArg (Prod.mk _) Keyed.share_put.symm

theorem delete_share : Records.delete tenant id (share tenant r) =
    ((r.delete tenant id).1, share tenant (r.delete tenant id).2) := by
  unfold Records.delete
  rw [Keyed.lookup_share]
  cases r.lookup (tenant, id) with
  | none => rfl
  | some _ => exact congrArg (Prod.mk _) Keyed.share_put.symm

theorem live_share : live tenant (share tenant r) = r.live tenant := by
  unfold live share
  rw [List.filter_filter]
  refine congrArg (fun l => (List.map Prod.snd l).mergeSort precedes) (List.filter_congr fun e _ => ?_)
  cases decide (e.1.1 = tenant) <;> simp

theorem list_share {q : Query} : list tenant q (share tenant r) = r.list tenant q := by
  unfold Records.list
  rw [live_share]

theorem total_share : total tenant (share tenant r) = r.total tenant := congrArg List.length live_share

section
variable (different : tenant' ≠ tenant)
include different

theorem share_create_other : share tenant (r.create tenant' now s).2 = share tenant r := by
  unfold Records.create
  split_ifs
  · rfl
  · rfl
  · exact Keyed.share_put_other different

theorem share_change_other : share tenant (r.change tenant' id c).2 = share tenant r := by
  unfold Records.change
  cases r.lookup (tenant', id) with
  | none => rfl
  | some _ => exact Keyed.share_put_other different

theorem share_delete_other : share tenant (r.delete tenant' id).2 = share tenant r := by
  unfold Records.delete
  cases r.lookup (tenant', id) with
  | none => rfl
  | some _ => exact Keyed.share_put_other different

end

end Catalog.Records

/-! ## Calls for a tenant -/

/-- A call for a tenant, with references that `owns` allows it. Records are dated before they are filed. -/
def Call.Within (tenant : Tenant) (owns : String → Prop) : Call → Prop
  | addEntry owner e => owner = tenant ∧ ∀ ref, e.secret? = some ref → owns ref
  | getEntry owner _ | deleteEntry owner _ => owner = tenant
  | createRecord caller s => caller.tenant = tenant ∧ s.creation.isSome = true
  | getRecord caller _ | changeRecord caller _ _ | deleteRecord caller _ => caller.tenant = tenant
  | listRecords caller _ | totalRecords caller _ => caller.tenant = tenant
  | putMaterial ref _ | findMaterial ref | dropMaterial ref => owns ref
  | drawIdentifier | drawReference | drawBytes _ | now | count _ => True
  | _ => False

/-- The references that an answer tells are among those that `owns` allows. -/
def Told (owns : String → Prop) : Event → Prop
  | ⟨.drawReference, ref⟩ => owns ref
  | ⟨.getEntry _ _, .ok e⟩ => ∀ ref, e.secret? = some ref → owns ref
  | _ => True

/-- The calls of a trace are for a tenant, as long as the answers tell only of references that it owns. -/
def Confined (tenant : Tenant) (owns : String → Prop) : Trace → Prop
  | [] => True
  | v :: t => v.call.Within tenant owns ∧ (Told owns v → Confined tenant owns t)

section
variable {tenant : Tenant} {owns : String → Prop} {t t' : Trace}

theorem confined_iff_trusting :
    Confined tenant owns t ↔ Trusting (·.Within tenant owns) (Told owns) t := by
  induction t with
  | nil => exact Iff.rfl
  | cons v t ih => exact and_congr_right' (imp_congr_right fun _ => ih)

theorem confined_append (first : Confined tenant owns t)
    (rest : (∀ v ∈ t, Told owns v) → Confined tenant owns t') : Confined tenant owns (t ++ t') := by
  simp only [confined_iff_trusting] at first rest ⊢
  exact trusting_append first rest

theorem confined_of_within (within : ∀ v ∈ t, v.call.Within tenant owns) : Confined tenant owns t :=
  confined_iff_trusting.2 (trusting_of_kind within)

/-- Where any reference is allowed, the calls are for the tenant whatever they are answered. -/
theorem Confined.within (h : Confined tenant (fun _ => True) t) :
    ∀ v ∈ t, v.call.Within tenant fun _ => True := by
  induction t with
  | nil => exact List.forall_mem_nil _
  | cons v t ih =>
    refine List.forall_mem_cons.2 ⟨h.1, ih (h.2 ?_)⟩
    obtain ⟨c, x⟩ := v
    unfold Told
    split <;> simp

end

/-! ### The share of the tenant -/

section
variable {f : Fault} {tenant tenant' : Tenant} {owns owns' : String → Prop} {c : Call} {a : c.Answer}

theorem Registry.Store.world_share {s s' : Store} (within : c.Within tenant owns)
    (answered : Store.world f c s a s') : Store.world f c (s.share tenant) a (s'.share tenant) := by
  cases c with
  | addEntry owner e =>
    obtain ⟨rfl, -⟩ := within
    exact Fault.Admits.map (s := s) (g := share owner) add_share answered
  | deleteEntry owner id =>
    obtain rfl : owner = tenant := within
    exact Fault.Admits.map (s := s) (g := share owner) delete_share answered
  | getEntry owner id =>
    obtain rfl : owner = tenant := within
    exact Fault.Admits.map_lookup (s := s) (g := share owner) get_share answered
  | updateEntry => exact within.elim
  | _ => exact congrArg (share tenant) answered

theorem Registry.Store.share_world_other {s s' : Store} (different : tenant' ≠ tenant)
    (within : c.Within tenant' owns) (answered : Store.world f c s a s') : s'.share tenant = s.share tenant := by
  cases c with
  | addEntry owner e =>
    obtain ⟨rfl, -⟩ := within
    exact Fault.Admits.kept (s := s) (share_add_other different) answered
  | deleteEntry owner id =>
    obtain rfl : owner = tenant' := within
    exact Fault.Admits.kept (s := s) (share_delete_other different) answered
  | getEntry owner id => exact Fault.Admits.kept (s := s) rfl answered
  | updateEntry => exact within.elim
  | _ => exact congrArg (share tenant) answered

theorem Catalog.Records.world_share {r r' : Records} (within : c.Within tenant owns)
    (answered : Records.world f c r a r') :
    Records.world f c (Keyed.share tenant r) a (Keyed.share tenant r') := by
  cases c with
  | createRecord caller s =>
    obtain ⟨rfl, -⟩ := within
    obtain ⟨now, admitted⟩ := answered
    exact ⟨now, admitted.map create_share⟩
  | changeRecord caller id change =>
    obtain rfl : caller.tenant = tenant := within
    exact Fault.Admits.map (s := r) (g := Keyed.share caller.tenant) change_share answered
  | deleteRecord caller id =>
    obtain rfl : caller.tenant = tenant := within
    exact Fault.Admits.map (s := r) (g := Keyed.share caller.tenant) delete_share answered
  | getRecord caller id =>
    obtain rfl : caller.tenant = tenant := within
    exact Fault.Admits.map_lookup (s := r) (g := Keyed.share caller.tenant) (congrArg _ get_share) answered
  | listRecords caller q =>
    obtain rfl : caller.tenant = tenant := within
    exact Fault.Admits.map_lookup (s := r) (g := Keyed.share caller.tenant) (congrArg _ list_share) answered
  | totalRecords caller q =>
    obtain rfl : caller.tenant = tenant := within
    exact Fault.Admits.map_lookup (s := r) (g := Keyed.share caller.tenant) (congrArg _ total_share) answered
  | _ => exact congrArg (Keyed.share tenant) answered

theorem Catalog.Records.share_world_other {r r' : Records} (different : tenant' ≠ tenant)
    (within : c.Within tenant' owns) (answered : Records.world f c r a r') :
    Keyed.share tenant r' = Keyed.share tenant r := by
  cases c with
  | createRecord caller s =>
    obtain ⟨rfl, -⟩ := within
    obtain ⟨now, admitted⟩ := answered
    exact admitted.kept (share_create_other different)
  | changeRecord caller id change =>
    obtain rfl : caller.tenant = tenant' := within
    exact Fault.Admits.kept (s := r) (share_change_other different) answered
  | deleteRecord caller id =>
    obtain rfl : caller.tenant = tenant' := within
    exact Fault.Admits.kept (s := r) (share_delete_other different) answered
  | getRecord | listRecords | totalRecords => exact Fault.Admits.kept (s := r) rfl answered
  | _ => exact congrArg (Keyed.share tenant) answered

/-- Two vaults hold the same under the references of a tenant. -/
def Vault.Contents.Agree (owns : String → Prop) (v v₁ : Vault.Contents) : Prop :=
  ∀ ref, owns ref → v₁.lookup ref = v.lookup ref

/-- Calls under references of the tenant do the same to vaults that agree on them. -/
theorem Vault.Contents.Agree.world {v v' v₁ : Vault.Contents} (agree : v.Agree owns v₁)
    (within : c.Within tenant owns) (answered : Vault.Contents.world c v a v') :
    ∃ v₁', Vault.Contents.world c v₁ a v₁' ∧ v'.Agree owns v₁' := by
  cases c with
  | putMaterial ref material =>
    obtain rfl : v' = v.put ref material := answered
    refine ⟨v₁.put ref material, rfl, fun ref' own => ?_⟩
    by_cases same : ref' = ref
    · subst same
      exact Keyed.lookup_put_self.trans Keyed.lookup_put_self.symm
    · exact (Keyed.lookup_put_other same).trans ((agree ref' own).trans (Keyed.lookup_put_other same).symm)
  | findMaterial ref =>
    obtain ⟨found, rfl⟩ := answered
    exact ⟨v₁, ⟨found.trans (agree ref within).symm, rfl⟩, agree⟩
  | dropMaterial ref =>
    obtain rfl : v' = v.drop ref := answered
    refine ⟨v₁.drop ref, rfl, fun ref' own => ?_⟩
    by_cases same : ref' = ref
    · subst same
      exact Keyed.lookup_erase_self.trans Keyed.lookup_erase_self.symm
    · exact (Keyed.lookup_erase_other same).trans ((agree ref' own).trans (Keyed.lookup_erase_other same).symm)
  | _ =>
    obtain rfl : v' = v := answered
    exact ⟨v₁, rfl, agree⟩

/-- Calls under other references leave what is under those of the tenant. -/
theorem Vault.Contents.Agree.world_other {v v' v₁ : Vault.Contents} (agree : v.Agree owns v₁)
    (apart : ∀ ref, owns' ref → ¬ owns ref) (within : c.Within tenant' owns')
    (answered : Vault.Contents.world c v a v') : v'.Agree owns v₁ := by
  cases c with
  | putMaterial ref material =>
    obtain rfl : v' = v.put ref material := answered
    intro ref' own
    have other : ref' ≠ ref := fun same => apart ref within (same ▸ own)
    exact (agree ref' own).trans (Keyed.lookup_put_other other).symm
  | findMaterial ref =>
    obtain ⟨-, rfl⟩ := answered
    exact agree
  | dropMaterial ref =>
    obtain rfl : v' = v.drop ref := answered
    intro ref' own
    have other : ref' ≠ ref := fun same => apart ref within (same ▸ own)
    exact (agree ref' own).trans (Keyed.lookup_erase_other other).symm
  | _ =>
    obtain rfl : v' = v := answered
    exact agree

end

/-! ## Alone and among others -/

/-- A tenant that is alone in `z` has there what it has among others in `y`. -/
structure Alone (tenant : Tenant) (owns : String → Prop) (y z : Stock × Catalog.Records) : Prop where
  store : z.1.store = y.1.store.share tenant
  records : z.2 = Keyed.share tenant y.2
  material : y.1.material.Agree owns z.1.material

/-- The entries of every tenant name references of its own. -/
def Named (owns : Tenant → String → Prop) (s : Store) : Prop :=
  ∀ tenant id e ref, s.get tenant id = .ok e → e.secret? = some ref → owns tenant ref

section
variable {tenant tenant' : Tenant} {owns : Tenant → String → Prop} {y y' z : Stock × Catalog.Records}
  {c : Call} {a : c.Answer}

theorem Alone.own_call (alone : Alone tenant (owns tenant) y z) (within : c.Within tenant (owns tenant))
    (answered : unfailing c y a y') : ∃ z', unfailing c z a z' ∧ Alone tenant (owns tenant) y' z' := by
  obtain ⟨material, kept, agree⟩ := alone.material.world within answered.1.2
  have store := Store.world_share within answered.1.1
  have records := Catalog.Records.world_share within answered.2
  rw [← alone.store] at store
  rw [← alone.records] at records
  refine ⟨(⟨y'.1.store.share tenant, material⟩, Keyed.share tenant y'.2), ?_, rfl, rfl, agree⟩
  exact ⟨⟨store, kept⟩, records⟩

theorem Alone.other_call (alone : Alone tenant (owns tenant) y z) (different : tenant' ≠ tenant)
    (apart : ∀ ref, owns tenant' ref → ¬ owns tenant ref) (within : c.Within tenant' (owns tenant'))
    (answered : unfailing c y a y') : Alone tenant (owns tenant) y' z where
  store := alone.store.trans (Store.share_world_other different within answered.1.1).symm
  records := alone.records.trans (Catalog.Records.share_world_other different within answered.2).symm
  material := alone.material.world_other apart within answered.1.2

theorem Named.after (named : Named owns y.1.store) (within : c.Within tenant (owns tenant))
    (answered : unfailing c y a y') : Named owns y'.1.store := by
  obtain ⟨⟨answered, -⟩, -⟩ := answered
  cases c with
  | addEntry owner e =>
    obtain ⟨rfl, allowed⟩ := within
    have admitted : Fault.never.Admits (y.1.store.add owner e) y.1.store a y'.1.store := answered
    have outcome := admitted.only
    intro tenant id e' ref found name
    cases a with
    | error _ =>
      have same := Store.add_error (congrArg Prod.fst outcome).symm
      rw [← outcome] at same
      rw [show y'.1.store = y.1.store from same] at found
      exact named tenant id e' ref found name
    | ok _ =>
      rcases Registry.Store.get_of_add outcome.symm found with ⟨same, kept⟩ | ⟨-, old⟩
      · obtain ⟨rfl, -⟩ := Prod.mk.inj same
        exact allowed ref ((Entry.secret?_congr kept).symm.trans name)
      · exact named tenant id e' ref old name
  | deleteEntry owner id =>
    have admitted : Fault.never.Admits (y.1.store.delete owner id) y.1.store a y'.1.store := answered
    intro tenant id' e ref found name
    rw [show y'.1.store = (y.1.store.delete owner id).2 from congrArg Prod.snd admitted.only] at found
    exact named tenant id' e ref (Registry.Store.get_of_delete found).1 name
  | getEntry owner id =>
    have admitted : Fault.never.Admits (y.1.store.get owner id, y.1.store) y.1.store a y'.1.store := answered
    rwa [admitted.lookup.1]
  | updateEntry => exact within.elim
  | _ => exact (show y'.1.store = y.1.store from answered) ▸ named

theorem Named.told (named : Named owns y.1.store) (within : c.Within tenant (owns tenant))
    (drew : ∀ ref ∈ drawn [⟨c, a⟩], owns tenant ref) (answered : unfailing c y a y') :
    Told (owns tenant) ⟨c, a⟩ := by
  cases c with
  | drawReference => exact drew a (mem_drawn List.mem_cons_self)
  | getEntry owner id =>
    obtain rfl : owner = tenant := within
    have admitted : Fault.never.Admits (y.1.store.get owner id, y.1.store) y.1.store a y'.1.store := answered.1.1
    cases a with
    | error _ => trivial
    | ok e => exact fun ref name => named owner id e ref (congrArg Prod.fst admitted.ok) name
  | _ => trivial

/-! ### Runs -/

variable {α : Type} {p : Action α} {t t₁ : Trace} {x x₁ : α} {y₁ : Stock × Catalog.Records}

/-- A run that is confined to a tenant, and draws references that are its own, is told of no others. -/
theorem Named.after_run (named : Named owns y.1.store) (drew : ∀ ref ∈ drawn t, owns tenant ref)
    (confined : Confined tenant (owns tenant) t) (h : Run unfailing p y t x y') :
    (∀ v ∈ t, v.call.Within tenant (owns tenant)) ∧ Named owns y'.1.store := by
  induction h with
  | done => exact ⟨List.forall_mem_nil _, named⟩
  | @call c next a s s₁ s₂ t x answered rest ih =>
    obtain ⟨within, later⟩ := confined
    rw [← List.singleton_append, drawn_append] at drew
    obtain ⟨first, others⟩ := List.forall_mem_append.1 drew
    have told := named.told within first answered
    obtain ⟨withins, kept⟩ := ih (named.after within answered) others (later told)
    exact ⟨List.forall_mem_cons.2 ⟨within, withins⟩, kept⟩

/-- What is done for the tenant is done alike where it is alone. -/
theorem Alone.own_run (alone : Alone tenant (owns tenant) y z)
    (within : ∀ v ∈ t, v.call.Within tenant (owns tenant)) (h : Run unfailing p y t x y') :
    ∃ z', Run unfailing p z t x z' ∧ Alone tenant (owns tenant) y' z' := by
  induction h generalizing z with
  | done => exact ⟨z, .done _ z, alone⟩
  | call answered _ ih =>
    obtain ⟨first, others⟩ := List.forall_mem_cons.1 within
    obtain ⟨z₁, answered, alone⟩ := alone.own_call first answered
    obtain ⟨z', rest, alone⟩ := ih alone others
    exact ⟨z', .call answered rest, alone⟩

/-- What is done for another tenant is nothing to the one that is alone. -/
theorem Alone.other_run (alone : Alone tenant (owns tenant) y z) (different : tenant' ≠ tenant)
    (apart : ∀ ref, owns tenant' ref → ¬ owns tenant ref)
    (within : ∀ v ∈ t, v.call.Within tenant' (owns tenant')) (h : Run unfailing p y t x y') :
    Alone tenant (owns tenant) y' z := by
  induction h with
  | done => exact alone
  | call answered _ ih =>
    obtain ⟨first, others⟩ := List.forall_mem_cons.1 within
    exact ih (alone.other_call different apart first answered) others

end

/-! ## What a run is given -/

/-- A value that a run has from outside: one that was drawn, or the time. -/
inductive Given where
  | identifier (id : String)
  | reference (ref : String)
  | bytes (drawn : List UInt8)
  | instant (now : Time.Instant)
  deriving DecidableEq

def Given.of? : Event → Option Given
  | ⟨.drawIdentifier, id⟩ => some (identifier id)
  | ⟨.drawReference, ref⟩ => some (reference ref)
  | ⟨.drawBytes _, drawn⟩ => some (bytes drawn)
  | ⟨.now, now⟩ => some (instant now)
  | _ => none

/-- What a run was supplied with, in the order it asked for it. -/
def supplied (t : Trace) : List Given := t.filterMap Given.of?

theorem supplied_cons {c : Call} {a a₁ : c.Answer} {t t₁ : Trace}
    (same : supplied (⟨c, a⟩ :: t) = supplied (⟨c, a₁⟩ :: t₁)) :
    Given.of? ⟨c, a⟩ = Given.of? ⟨c, a₁⟩ ∧ supplied t = supplied t₁ := by
  cases c with
  | drawIdentifier | drawReference | drawBytes | now =>
    obtain ⟨first, rest⟩ := List.cons.inj same
    exact ⟨congrArg some first, rest⟩
  | _ => exact ⟨rfl, same⟩

section
variable {tenant : Tenant} {owns : String → Prop} {c : Call} {a a₁ : c.Answer}

theorem Registry.Store.world_once {s s' s₁ : Store} (h : Store.world .never c s a s')
    (h₁ : Store.world .never c s a₁ s₁) : s' = s₁ := by
  cases c with
  | addEntry | getEntry | updateEntry | deleteEntry => exact (Fault.Admits.once (s := s) h h₁).2
  | _ => exact Eq.trans h (Eq.symm h₁)

theorem Vault.Contents.world_once {v v' v₁ : Vault.Contents} (h : Vault.Contents.world c v a v')
    (h₁ : Vault.Contents.world c v a₁ v₁) : v' = v₁ := by
  cases c with
  | findMaterial => exact h.2.trans h₁.2.symm
  | _ => exact Eq.trans h (Eq.symm h₁)

/-- A record that has its date is filed with that, whatever the time. -/
theorem Catalog.Records.create_once {r r' r₁ : Records} {caller : Caller} {s : Secret} {x x₁ : Except Error Secret}
    (dated : s.creation.isSome = true) (h : Records.world .never (.createRecord caller s) r x r')
    (h₁ : Records.world .never (.createRecord caller s) r x₁ r₁) : x = x₁ ∧ r' = r₁ := by
  obtain ⟨now, h⟩ := h
  obtain ⟨now₁, h₁⟩ := h₁
  have same : r.create caller.tenant now s = r.create caller.tenant now₁ s := by
    obtain ⟨date, given⟩ := Option.isSome_iff_exists.1 dated
    unfold Records.create
    rw [given]
    rfl
  exact (same ▸ h).once h₁

theorem Catalog.Records.world_once {r r' r₁ : Records} (within : c.Within tenant owns)
    (h : Records.world .never c r a r') (h₁ : Records.world .never c r a₁ r₁) : r' = r₁ := by
  cases c with
  | createRecord => exact (create_once within.2 h h₁).2
  | getRecord | changeRecord | deleteRecord => exact (Fault.Admits.once (s := r) h h₁).2
  | listRecords | totalRecords => exact (Fault.Admits.once (s := r) h h₁).2
  | _ => exact Eq.trans h (Eq.symm h₁)

variable {y y' y₁ : Stock × Catalog.Records}

/-- There is one answer to a call for a tenant, or it is supplied; what it leaves is then settled. -/
theorem answered_once (within : c.Within tenant owns) (given : Given.of? ⟨c, a⟩ = Given.of? ⟨c, a₁⟩)
    (h : unfailing c y a y') (h₁ : unfailing c y a₁ y₁) : a = a₁ ∧ y' = y₁ := by
  obtain ⟨⟨s', v'⟩, r'⟩ := y'
  obtain ⟨⟨s₁, v₁⟩, r₁⟩ := y₁
  obtain ⟨⟨store, material⟩, records⟩ := h
  obtain ⟨⟨store₁, material₁⟩, records₁⟩ := h₁
  obtain rfl : s' = s₁ := Store.world_once store store₁
  obtain rfl : v' = v₁ := Vault.Contents.world_once material material₁
  obtain rfl : r' = r₁ := Catalog.Records.world_once within records records₁
  refine ⟨?_, rfl⟩
  cases c with
  | addEntry | getEntry | deleteEntry => exact (Fault.Admits.once (s := y.1.store) store store₁).1
  | createRecord => exact (Catalog.Records.create_once within.2 records records₁).1
  | getRecord | changeRecord | deleteRecord => exact (Fault.Admits.once (s := y.2) records records₁).1
  | listRecords | totalRecords => exact (Fault.Admits.once (s := y.2) records records₁).1
  | findMaterial => exact material.1.trans material₁.1.symm
  | putMaterial | dropMaterial | count => rfl
  | drawIdentifier | drawReference | drawBytes | now =>
    cases given
    rfl
  | _ => exact within.elim

/-- What a program does for a tenant depends on where it starts and on what it is supplied with. -/
theorem ran_once {α : Type} {p : Action α} {t t₁ : Trace} {x x₁ : α}
    (within : ∀ v ∈ t, v.call.Within tenant owns) (same : supplied t = supplied t₁)
    (h : Run unfailing p y t x y') (h₁ : Run unfailing p y t₁ x₁ y₁) : t = t₁ ∧ x = x₁ ∧ y' = y₁ := by
  induction h generalizing t₁ with
  | done =>
    obtain ⟨rfl, rfl, rfl⟩ := Run.done_iff.1 h₁
    exact ⟨rfl, rfl, rfl⟩
  | call answered _ ih =>
    cases h₁ with
    | call answered₁ rest₁ =>
      obtain ⟨first, others⟩ := List.forall_mem_cons.1 within
      obtain ⟨given, tail⟩ := supplied_cons same
      obtain ⟨rfl, rfl⟩ := answered_once first given answered answered₁
      obtain ⟨rfl, rfl, rfl⟩ := ih others tail rest₁
      exact ⟨rfl, rfl, rfl⟩

end

end KeyCustody
