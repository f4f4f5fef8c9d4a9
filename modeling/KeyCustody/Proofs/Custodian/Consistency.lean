import KeyCustody.Proofs.Custodian.Frame
import KeyCustody.Proofs.Keyed
import KeyCustody.Proofs.Keystore.Frame
import KeyCustody.Proofs.Lifecycle.Transitions
import KeyCustody.Proofs.World
import Mathlib.Data.List.Nodup

/-!
# Records stay consistent

Whatever is requested and whatever fails, a record never holds material, is marked as deleted exactly
if it is destroyed, and else is in a phase that its reason goes with.
-/

namespace KeyCustody

open Program

/-! ## Verdicts -/

/-- The phases of a record that is not deleted, each with its reason. -/
def PhaseChange.IsStanding (c : PhaseChange) : Prop :=
  c = ⟨.preactivation, none⟩ ∨ c = ⟨.activation, some .keyActive⟩ ∨
    c = ⟨.deactivated, some .expired⟩

theorem PhaseChange.IsStanding.phase {c : PhaseChange} (h : c.IsStanding) :
    c.phase ≠ .destroyed ∧ c.phase ≠ .suspended := by
  obtain rfl | rfl | rfl := h
  · exact ⟨nofun, nofun⟩
  · exact ⟨nofun, nofun⟩
  · exact ⟨nofun, nofun⟩

namespace Secret

variable {s : Secret} {observed : Option Phase} {now : Time.Instant}

structure Consistent (s : Secret) : Prop where
  payload : s.payload = none
  deleted : s.deleted = true ↔ s.phase = .destroyed
  standing : s.deleted = false → PhaseChange.IsStanding ⟨s.phase, s.reason⟩

theorem consistent_standing (payload : s.payload = none) (standing : s.deleted = false)
    (phase : PhaseChange.IsStanding ⟨s.phase, s.reason⟩) : s.Consistent where
  payload := payload
  deleted := iff_of_false (by simp [standing]) phase.phase.1
  standing _ := phase

theorem consistent_destroyed (payload : s.payload = none) (gone : s.deleted = true)
    (phase : s.phase = .destroyed) : s.Consistent where
  payload := payload
  deleted := iff_of_true gone phase
  standing standing := by simp [gone] at standing

/-- A verdict that changes a consistent record is that there will be no material, or a phase with the
reason that goes with it; and the record is not deleted. -/
theorem assess_changed (h : s.Consistent) (changed : (s.assess observed now).changed = true) :
    s.deleted = false ∧
      ((s.assess observed now).generationFailed = true ∧ (s.assess observed now).phase = .destroyed ∨
        (s.assess observed now).generationFailed = false ∧
          (s.assess observed now).change.IsStanding) := by
  have finding := finding_assess s observed now
  generalize s.assess observed now = v at changed finding ⊢
  have standing : s.deleted = false :=
    Bool.eq_false_iff.2 fun gone => finding.standing changed (h.deleted.1 gone)
  refine ⟨standing, ?_⟩
  cases finding with
  | final | waiting => cases changed
  | lost => exact .inl ⟨rfl, rfl⟩
  | repaired _ _ deleted =>
    rw [standing] at deleted
    cases deleted
  | lapsed => exact .inr ⟨rfl, .inr (.inr rfl)⟩
  | due => exact .inr ⟨rfl, .inr (.inl rfl)⟩
  | early => exact .inr ⟨rfl, .inl rfl⟩

end Secret

/-! ## Records -/

namespace Catalog.Records

variable {f : Fault} {r r' : Records} {tenant : Tenant} {s : Secret} {id : String}

/-- One record a key, under its own identifier. -/
structure Filed (r : Records) : Prop where
  unique : (r.map (·.1)).Nodup
  own : ∀ p ∈ r, p.2.id = p.1.2

/-- Filed records that are consistent. -/
structure Sound (r : Records) : Prop extends Filed r where
  consistent : ∀ p ∈ r, p.2.Consistent

theorem sound_empty : Sound [] := ⟨⟨List.nodup_nil, by simp⟩, by simp⟩

theorem Filed.put (h : r.Filed) (own : s.id = id) : (r.put (tenant, id) s).Filed :=
  ⟨Keyed.nodup_put h.unique, List.forall_mem_cons.2
    ⟨own, fun p member => h.own p (List.mem_filter.1 member).1⟩⟩

theorem Sound.put (h : r.Sound) (own : s.id = id) (consistent : s.Consistent) :
    (r.put (tenant, id) s).Sound := by
  refine ⟨h.toFiled.put own, List.forall_mem_cons.2 ⟨consistent, fun p member => ?_⟩⟩
  exact h.consistent p (List.mem_filter.1 member).1

theorem Filed.of_lookup (h : r.Filed) (found : r.lookup (tenant, id) = some s) : s.id = id :=
  h.own _ ((Keyed.lookup_eq_some_iff h.unique).1 found)

/-- A record is refused, or stored under its own identifier: dated, and without its material. -/
theorem create_cases (tenant : Tenant) (now : Time.Instant) (s : Secret) (r : Records) :
    (∃ error, r.create tenant now s = (.error error, r)) ∨
      ∃ stored, r.create tenant now s = (.ok stored, r.put (tenant, s.id) stored) ∧
        r.lookup (tenant, s.id) = none ∧
        stored = { s with payload := none, creation := some (s.creation.getD now) } := by
  unfold Records.create
  dsimp only
  by_cases unnamed : s.id.isEmpty = true
  · exact .inl ⟨_, if_pos unnamed⟩
  rw [if_neg unnamed]
  by_cases known : (r.lookup (tenant, s.id)).isSome = true
  · exact .inl ⟨_, if_pos known⟩
  · exact .inr ⟨_, if_neg known, Option.not_isSome_iff_eq_none.1 known, rfl⟩

theorem create_error {now : Time.Instant} {error : Error} (h : (r.create tenant now s).1 = .error error) :
    (r.create tenant now s).2 = r := by
  obtain ⟨_, same⟩ | ⟨_, same, -⟩ := create_cases tenant now s r
  · rw [same]
  · rw [same] at h
    cases h

theorem Filed.create {now : Time.Instant} (h : r.Filed) : (r.create tenant now s).2.Filed := by
  obtain ⟨_, same⟩ | ⟨_, same, -, rfl⟩ := create_cases tenant now s r
  · rwa [same]
  · rw [same]
    exact h.put rfl

theorem Filed.change {c : PhaseChange} (h : r.Filed) : (r.change tenant id c).2.Filed := by
  unfold Records.change
  cases found : r.lookup (tenant, id) with
  | none => exact h
  | some s =>
    have own : s.id = id := h.of_lookup found
    exact h.put own

theorem Filed.delete (h : r.Filed) : (r.delete tenant id).2.Filed := by
  unfold Records.delete
  cases found : r.lookup (tenant, id) with
  | none => exact h
  | some s =>
    have own : s.id = id := h.of_lookup found
    exact h.put own

theorem Sound.of_lookup (h : r.Sound) (found : r.lookup (tenant, id) = some s) :
    s.id = id ∧ s.Consistent :=
  ⟨h.toFiled.of_lookup found, h.consistent _ ((Keyed.lookup_eq_some_iff h.unique).1 found)⟩

theorem Sound.create {now : Time.Instant} (h : r.Sound) (standing : s.deleted = false)
    (phase : PhaseChange.IsStanding ⟨s.phase, s.reason⟩) : (r.create tenant now s).2.Sound := by
  obtain ⟨_, same⟩ | ⟨_, same, -, rfl⟩ := create_cases tenant now s r
  · rwa [same]
  · rw [same]
    exact h.put rfl (Secret.consistent_standing rfl standing phase)

/-- The record of an identifier once it has been written to. -/
theorem Sound.enter (h : r.Sound) {c : PhaseChange} (found : r.lookup (tenant, id) = some s)
    (consistent : (s.enter c).Consistent) : (r.change tenant id c).2.Sound := by
  unfold change
  rw [found]
  exact h.put (h.of_lookup found).1 consistent

theorem Sound.delete (h : r.Sound) : (r.delete tenant id).2.Sound := by
  unfold Records.delete
  cases found : r.lookup (tenant, id) with
  | none => exact h
  | some s =>
    obtain ⟨own, consistent⟩ := h.of_lookup found
    exact h.put own (Secret.consistent_destroyed consistent.payload rfl rfl)

theorem lookup_change_other {c : PhaseChange} {id' : String} (different : id' ≠ id) :
    (r.change tenant id c).2.lookup (tenant, id') = r.lookup (tenant, id') := by
  unfold change
  cases r.lookup (tenant, id) with
  | none => rfl
  | some s => exact Keyed.lookup_put_other (by simpa using different)

theorem lookup_delete_other {id' : String} (different : id' ≠ id) :
    (r.delete tenant id).2.lookup (tenant, id') = r.lookup (tenant, id') := by
  unfold Records.delete
  cases r.lookup (tenant, id) with
  | none => rfl
  | some s => exact Keyed.lookup_put_other (by simpa using different)

/-- The live records of a tenant are those that are not deleted, each once. -/
theorem Filed.live (h : r.Filed) (tenant : Tenant) :
    (∀ s, s ∈ r.live tenant ↔ r.lookup (tenant, s.id) = some s ∧ s.deleted = false) ∧
      ((r.live tenant).map Secret.id).Nodup := by
  constructor
  · intro s
    rw [Records.live, (List.mergeSort_perm _ _).mem_iff]
    constructor
    · intro shown
      obtain ⟨⟨⟨owner, id⟩, s⟩, kept, rfl⟩ := List.mem_map.1 shown
      obtain ⟨stored, mine⟩ := List.mem_filter.1 kept
      obtain ⟨rfl, live⟩ : owner = tenant ∧ s.deleted = false := by simpa using mine
      rw [h.own _ stored]
      exact ⟨(Keyed.lookup_eq_some_iff h.unique).2 stored, live⟩
    · rintro ⟨found, live⟩
      have stored := (Keyed.lookup_eq_some_iff h.unique).1 found
      exact List.mem_map.2 ⟨_, List.mem_filter.2 ⟨stored, by simp [live]⟩, rfl⟩
  · refine ((List.mergeSort_perm _ _).map Secret.id).nodup_iff.2 ?_
    rw [List.map_map]
    refine List.Nodup.map_on ?_ ((List.Nodup.of_map _ h.unique).filter _)
    intro p kept p' kept' same
    obtain ⟨stored, mine⟩ := List.mem_filter.1 kept
    obtain ⟨stored', mine'⟩ := List.mem_filter.1 kept'
    obtain ⟨owner, -⟩ : p.1.1 = tenant ∧ p.2.deleted = false := by simpa using mine
    obtain ⟨owner', -⟩ : p'.1.1 = tenant ∧ p'.2.deleted = false := by simpa using mine'
    have named : p.1.2 = p'.1.2 := by
      rw [← h.own p stored, ← h.own p' stored']
      exact same
    exact List.inj_on_of_nodup_map h.unique stored stored'
      (Prod.ext (owner.trans owner'.symm) named)

/-- A page of a tenant shows records that are not deleted, as they are and each once. -/
theorem Filed.list (h : r.Filed) (tenant : Tenant) (q : Query) :
    (∀ s ∈ r.list tenant q, r.lookup (tenant, s.id) = some s ∧ s.deleted = false) ∧
      ((r.list tenant q).map Secret.id).Nodup := by
  have part : (r.list tenant q).Sublist (r.live tenant) :=
    (List.take_sublist _ _).trans (List.drop_sublist _ _)
  obtain ⟨current, once⟩ := h.live tenant
  exact ⟨fun s member => (current s).1 (part.subset member), once.sublist (part.map Secret.id)⟩

end Catalog.Records

/-! ## Settling -/

section
variable {f : Fault} {r r' : Catalog.Records} {t : Trace} {caller : Caller} {s : Secret}
  {now : Time.Instant}

/-- What a call can make of the records, whether or not it fails. -/
theorem Catalog.Records.world_cases {c : Call} {x : c.Answer} (answered : Records.world f c r x r') :
    r' = r ∨ (∃ tenant now s, r' = (r.create tenant now s).2) ∨
      (∃ tenant id change, r' = (r.change tenant id change).2) ∨
      ∃ tenant id, r' = (r.delete tenant id).2 := by
  cases c with
  | createRecord caller s =>
    obtain ⟨now, admitted⟩ := answered
    exact admitted.state.imp_right fun same => .inl ⟨_, now, s, same⟩
  | changeRecord caller id change =>
    have admitted : f.Admits (r.change caller.tenant id change) r x r' := answered
    exact admitted.state.imp_right fun same => .inr (.inl ⟨_, id, change, same⟩)
  | deleteRecord caller id =>
    have admitted : f.Admits (r.delete caller.tenant id) r x r' := answered
    exact admitted.state.imp_right fun same => .inr (.inr ⟨_, id, same⟩)
  | getRecord caller id =>
    have admitted : f.Admits (.ok (r.get caller.tenant id), r) r x r' := answered
    exact .inl admitted.lookup.1
  | listRecords caller q =>
    have admitted : f.Admits (.ok (r.list caller.tenant q), r) r x r' := answered
    exact .inl admitted.lookup.1
  | totalRecords caller q =>
    have admitted : f.Admits (.ok (r.total caller.tenant), r) r x r' := answered
    exact .inl admitted.lookup.1
  | _ => exact .inl answered

/-- Records stay filed, whatever is called and whether or not it fails. -/
theorem Catalog.Records.Filed.after {c : Call} {x : c.Answer} (h : r.Filed)
    (answered : Catalog.Records.world f c r x r') : r'.Filed := by
  obtain rfl | ⟨tenant, now, s, rfl⟩ | ⟨tenant, id, change, rfl⟩ | ⟨tenant, id, rfl⟩ :=
    Catalog.Records.world_cases answered
  · exact h
  · exact h.create
  · exact h.change
  · exact h.delete

theorem world_eq {c : Call} {x : c.Answer} (apart : c.isOnCatalog = false)
    (answered : Catalog.Records.world f c r x r') : r' = r := by
  cases c with
  | createRecord | getRecord | changeRecord | deleteRecord => cases apart
  | listRecords | totalRecords => cases apart
  | _ => exact answered

/-- What makes no call on the catalog leaves the records as they are. -/
theorem run_apart {α : Type} {p : Action α} {result : α → Prop} {a : α}
    (h : p.Keeps (·.isOnCatalog = false) result) (run : Run (Catalog.Records.world f) p r t a r') :
    r' = r ∧ result a :=
  h.unchanged (fun _ _ _ _ => world_eq) run

/-- Nothing changes for the tenant but the record of one identifier. -/
def OnlyAt (tenant : Tenant) (id : String) (r r' : Catalog.Records) : Prop :=
  ∀ id', id' ≠ id → r'.lookup (tenant, id') = r.lookup (tenant, id')

theorem run_change {id : String} {c : PhaseChange} {x : Except Error Unit} (sound : r.Sound)
    (found : r.lookup (caller.tenant, id) = some s) (consistent : (s.enter c).Consistent)
    (h : Run (Catalog.Records.world f) (Action.catalog.change caller id c).run r t x r') :
    r'.Sound ∧ OnlyAt caller.tenant id r r' := by
  obtain ⟨rfl, answered⟩ := Run.ask_iff.1 h
  have admitted : f.Admits (r.change caller.tenant id c) r x r' := answered
  obtain rfl | rfl := admitted.state
  · exact ⟨sound, fun _ _ => rfl⟩
  · exact ⟨sound.enter found consistent, fun _ => Catalog.Records.lookup_change_other⟩

theorem run_delete {id : String} {x : Except Error Secret} (sound : r.Sound)
    (h : Run (Catalog.Records.world f) (Action.catalog.delete caller id).run r t x r') :
    (r'.Sound ∧ OnlyAt caller.tenant id r r') ∧
      ∀ gone, x = .ok gone → ∃ s, r.lookup (caller.tenant, id) = some s ∧
        r'.lookup (caller.tenant, id) = some { s with deleted := true, phase := .destroyed } := by
  obtain ⟨rfl, answered⟩ := Run.ask_iff.1 h
  have admitted : f.Admits (r.delete caller.tenant id) r x r' := answered
  constructor
  · obtain rfl | rfl := admitted.state
    · exact ⟨sound, fun _ _ => rfl⟩
    · exact ⟨sound.delete, fun _ => Catalog.Records.lookup_delete_other⟩
  · rintro gone rfl
    have done := admitted.ok
    unfold Catalog.Records.delete at done
    cases found : r.lookup (caller.tenant, id) with
    | none => rw [found] at done; cases done
    | some s =>
      rw [found] at done
      obtain ⟨-, rfl⟩ := Prod.mk.inj done
      exact ⟨s, rfl, Keyed.lookup_put_self⟩

theorem run_write {v : Verdict} {x : Except Error Unit × Secret} (last : Secret) (sound : r.Sound)
    (found : r.lookup (caller.tenant, last.id) = some s) (consistent : (s.enter v.change).Consistent)
    (h : Run (Catalog.Records.world f) (Lifecycle.write Action.catalog Action.count caller last v)
      r t x r') :
    r'.Sound ∧ OnlyAt caller.tenant last.id r r' := by
  obtain ⟨_, y, r₁, _, rfl, changed, ended⟩ := Run.bind_iff.1 h
  have kept := run_change sound found consistent changed
  cases y with
  | error _ =>
    obtain ⟨-, -, rfl⟩ := Run.pure_iff.1 ended
    exact kept
  | ok _ =>
    obtain ⟨_, _, _, _, rfl, counted, last⟩ := Run.bind_iff.1 ended
    obtain ⟨rfl, rfl⟩ := Run.ask_iff.1 counted
    obtain ⟨-, -, rfl⟩ := Run.pure_iff.1 last
    exact kept

/-- Writing a verdict on the record as it stands keeps the records sound, also half way. -/
theorem run_settle {x : Except Error Unit × Secret} {observed : Option Phase} (sound : r.Sound)
    (found : r.lookup (caller.tenant, s.id) = some s)
    (h : Run (Catalog.Records.world f) (Lifecycle.settle Action.catalog Action.count caller s
      (s.assess observed now)) r t x r') :
    r'.Sound ∧ OnlyAt caller.tenant s.id r r' := by
  obtain ⟨-, consistent⟩ := sound.of_lookup found
  cases changed : (s.assess observed now).changed with
  | false =>
    rw [Lifecycle.settle_unchanged changed] at h
    obtain ⟨rfl, -, rfl⟩ := Run.pure_iff.1 h
    exact ⟨sound, fun _ _ => rfl⟩
  | true =>
    obtain ⟨standing, ⟨failed, gone⟩ | ⟨well, phase⟩⟩ := Secret.assess_changed consistent changed
    · rw [Lifecycle.settle_failed changed failed] at h
      obtain ⟨_, y, r₁, _, rfl, deleted, written⟩ := Run.bind_iff.1 h
      obtain ⟨⟨sound₁, only₁⟩, marked⟩ := run_delete sound deleted
      cases y with
      | error _ =>
        obtain ⟨-, -, rfl⟩ := Run.pure_iff.1 written
        exact ⟨sound₁, only₁⟩
      | ok d =>
        obtain ⟨s₁, found₁, marked⟩ := marked d rfl
        obtain rfl : s = s₁ := Option.some.inj (found.symm.trans found₁)
        obtain ⟨sound', only'⟩ := run_write { s with deleted := true } sound₁ marked
          (Secret.consistent_destroyed consistent.payload rfl gone) written
        exact ⟨sound', fun id different => (only' id different).trans (only₁ id different)⟩
    · rw [Lifecycle.settle_changed changed well] at h
      exact run_write s sound found (Secret.consistent_standing consistent.payload standing phase) h

/-- Verdicts on records as they stand, one a record. -/
theorem run_settleAll {pairs : List (Secret × Option Phase)} {secrets : List Secret} (sound : r.Sound)
    (current : ∀ p ∈ pairs, r.lookup (caller.tenant, p.1.id) = some p.1)
    (once : (pairs.map fun p => p.1.id).Nodup)
    (h : Run (Catalog.Records.world f) (pairs.mapM fun p =>
      return (← Lifecycle.settle Action.catalog Action.count caller p.1 (p.1.assess p.2 now)).2 :
      Action (List Secret)) r t secrets r') : r'.Sound := by
  induction pairs generalizing r t secrets with
  | nil =>
    obtain ⟨-, -, rfl⟩ := Run.pure_iff.1 h
    exact sound
  | cons p pairs ih =>
    obtain ⟨mine, others⟩ := List.forall_mem_cons.1 current
    obtain ⟨fresh, once⟩ := List.nodup_cons.1 once
    obtain ⟨_, _, r₁, _, _, rfl, -, settled, rest⟩ := Run.mapM_mapped_cons h
    obtain ⟨sound₁, only⟩ := run_settle sound mine settled
    refine ih sound₁ (fun p' member => ?_) once rest
    have different : p'.1.id ≠ p.1.id := fun same => fresh (List.mem_map.2 ⟨p', member, same⟩)
    rw [only _ different]
    exact others p' member

end

/-! ## Requests -/

namespace Custodian

variable {f : Fault} {k : Keystore Action} {r r' : Catalog.Records} {t : Trace} {caller : Caller}
  {id : String}

theorem sound_update {s : Secret} {observed : Option Phase} {x : Except Error Secret} (sound : r.Sound)
    (found : r.lookup (caller.tenant, s.id) = some s)
    (h : Run (Catalog.Records.world f) ((Action.custodian k).update caller s observed).run r t x r') :
    r'.Sound := by
  obtain ⟨_, now, _, _, rfl, asked, settled⟩ := Run.bind_iff.1 h
  obtain ⟨rfl, rfl⟩ := Run.ask_iff.1 asked
  obtain ⟨_, _, _, _, rfl, settled, passed⟩ := Run.bind_iff.1 settled
  obtain ⟨-, -, rfl⟩ := Run.pure_iff.1 passed
  exact (run_settle sound found settled).1

theorem run_find {x : Except Error Secret}
    (h : Run (Catalog.Records.world f) ((Action.custodian k).find caller id).run r t x r') :
    r' = r ∧ ∀ s, x = .ok s → r.lookup (caller.tenant, id) = some s := by
  have looked : ∀ {t y r₁}, Run (Catalog.Records.world f) (Action.catalog.get caller id).run r t y r₁ →
      r₁ = r ∧ ∀ s, y = .ok s → s = r.lookup (caller.tenant, id) := by
    intro t y r₁ asked
    obtain ⟨rfl, answered⟩ := Run.ask_iff.1 asked
    have admitted : f.Admits (.ok (r.get caller.tenant id), r) r y r₁ := answered
    refine ⟨admitted.lookup.1, ?_⟩
    rintro s rfl
    exact (Except.ok.inj (congrArg Prod.fst admitted.ok)).symm
  obtain ⟨e, rfl, asked⟩ | ⟨_, found, _, _, rfl, asked, ended⟩ := Run.bindExcept_iff.1 h
  · exact ⟨(looked asked).1, fun s same => by cases same⟩
  · obtain ⟨rfl, same⟩ := looked asked
    cases found with
    | none =>
      obtain ⟨-, rfl, rfl⟩ := Run.throw_iff.1 ended
      exact ⟨rfl, fun s same => by cases same⟩
    | some s =>
      obtain ⟨-, rfl, rfl⟩ := Run.pureExcept_iff.1 ended
      refine ⟨rfl, fun s' own => ?_⟩
      obtain rfl := Except.ok.inj own
      exact (same _ rfl).symm

theorem sound_read {x : Except Error Secret} (apart : Keystore.Apart k) (sound : r.Sound)
    (h : Run (Catalog.Records.world f) ((Action.custodian k).read caller id).run r t x r') :
    r'.Sound := by
  obtain ⟨e, rfl, looked⟩ | ⟨_, s, _, _, rfl, looked, ended⟩ := Run.bindExcept_iff.1 h
  · exact (run_find looked).1 ▸ sound
  obtain ⟨rfl, found⟩ := run_find looked
  have found := found s rfl
  obtain ⟨rfl, -⟩ := sound.of_lookup found
  by_cases destroyed : s.phase = .destroyed
  · rw [if_pos destroyed] at ended
    obtain ⟨-, -, rfl⟩ := Run.pureExcept_iff.1 ended
    exact sound
  rw [if_neg destroyed] at ended
  by_cases deleted : s.deleted = true
  · rw [if_pos deleted] at ended
    exact sound_update sound found ended
  rw [if_neg deleted] at ended
  obtain ⟨e, rfl, observed⟩ | ⟨_, o, _, _, rfl, observed, updated⟩ := Run.bindExcept_iff.1 ended
  · exact (run_apart (apart.payload caller s.id) observed).1 ▸ sound
  obtain ⟨rfl, -⟩ := run_apart (apart.payload caller s.id) observed
  obtain ⟨e, rfl, stopped⟩ | ⟨_, _, _, _, rfl, settled, passed⟩ := Run.bindExcept_iff.1 updated
  · exact sound_update sound found stopped
  · obtain ⟨-, -, rfl⟩ := Run.pureExcept_iff.1 passed
    exact sound_update sound found settled

theorem nodup_zip {page : List Secret} {observed : List (Option Phase)}
    (once : (page.map Secret.id).Nodup) : ((page.zip observed).map fun p => p.1.id).Nodup := by
  induction page generalizing observed with
  | nil => exact List.nodup_nil
  | cons s page ih =>
    obtain ⟨fresh, once⟩ := List.nodup_cons.1 once
    cases observed with
    | nil => exact List.nodup_nil
    | cons o observed =>
      refine List.nodup_cons.2 ⟨fun member => ?_, ih once⟩
      obtain ⟨p, zipped, same⟩ := List.mem_map.1 member
      exact fresh (List.mem_map.2 ⟨p.1, (List.of_mem_zip zipped).1, same⟩)

theorem sound_readPage {q : Catalog.Query} {x : Except Error (List Secret)} (apart : Keystore.Apart k)
    (sound : r.Sound)
    (h : Run (Catalog.Records.world f) ((Action.custodian k).readPage caller q).run r t x r') :
    r'.Sound := by
  cases paged_of_run h with
  | malformed => exact sound
  | unlisted refused =>
    have admitted : f.Admits (.ok (r.list caller.tenant q), r) r _ r' := refused
    exact admitted.lookup.1 ▸ sound
  | @settled page _ _ _ _ _ r₁ _ _ _ listed read checked settled =>
    have admitted : f.Admits (.ok (r.list caller.tenant q), r) r (.ok page) r₁ := listed
    obtain ⟨same, rfl⟩ := Prod.mk.inj admitted.ok
    obtain rfl := Except.ok.inj same
    obtain ⟨current, once⟩ := sound.toFiled.list caller.tenant q
    obtain rfl := read
    obtain ⟨rfl, -⟩ := run_apart (keeps_observe (apart.check caller) _) checked
    refine run_settleAll sound ?_ (nodup_zip once) settled
    exact fun p member => (current p.1 (List.of_mem_zip member).1).1

theorem sound_place {s : Secret} {x : Except Error Secret × Ledger Action} (apart : Keystore.Apart k)
    (standing : s.deleted = false) (sound : r.Sound)
    (h : Run (Catalog.Records.world f) ((Action.custodian k).place caller s) r t x r') :
    r'.Sound := by
  -- the record is that of a creation, whether or not it is stored, and whether or not that is answered
  have filed : ∀ {created : Keystore.Creation Action} {id now r x r'}, r.Sound →
      created.Fits { s with name := Text.trim s.name } → created.result = .ok id →
      Catalog.Records.world f (.createRecord caller { created.secret with id := id, creation := some now })
        r x r' → r'.Sound := by
    rintro created id now r x r' sound fits result ⟨time, admitted⟩
    have phase : PhaseChange.IsStanding ⟨created.secret.phase, created.secret.reason⟩ := by
      obtain ⟨phase, reason⟩ | ⟨phase, reason⟩ := fits.entered id result
      · exact .inr (.inl (by rw [phase, reason]))
      · exact .inl (by rw [phase, reason])
    obtain rfl | rfl := admitted.state
    · exact sound
    · exact sound.create (fits.deleted.trans standing) phase
  obtain ⟨_ | last, ledger⟩ := x
  · cases run_place_error h with
    | invalid => exact sound
    | refused made _ undone =>
      obtain ⟨rfl, fits⟩ := run_apart (apart.create caller _) made
      exact (run_apart (keeps_rollBack (fun _ => rfl) fits.undo) undone).1 ▸ sound
    | unrecorded made result own read declined undone =>
      obtain ⟨rfl, fits⟩ := run_apart (apart.create caller _) made
      obtain rfl := read
      subst own
      exact (run_apart (keeps_rollBack (fun _ => rfl) fits.undo) undone).1 ▸ filed sound fits result declined
  · obtain ⟨created, id, now, stored, _, _, _, _, _, -, made, result, asked, sent, -⟩ := run_place_stored h
    obtain ⟨rfl, fits⟩ := run_apart (apart.create caller _) made
    obtain ⟨-, rfl⟩ := Run.ask_iff.1 asked
    exact filed sound fits result (Run.ask_iff.1 sent).2

theorem sound_remove {whole : Bool} {ledger : Ledger Action}
    {x : Except Error (Option Secret) × Ledger Action} (apart : Keystore.Apart k) (sound : r.Sound)
    (h : Run (Catalog.Records.world f) ((Action.custodian k).remove caller id whole ledger) r t x r') :
    r'.Sound := by
  obtain ⟨_, o, r, _, rfl, observed, ended⟩ := Run.bind_iff.1 h
  obtain ⟨rfl, -⟩ := run_apart (keeps_observeLast (apart.payload caller id) whole) observed
  cases o with
  | error _ =>
    obtain ⟨-, -, rfl⟩ := Run.pure_iff.1 ended
    exact sound
  | ok observed =>
    obtain ⟨_, ⟨y, ledger⟩, r, _, rfl, deleted, marked⟩ := Run.bind_iff.1 ended
    obtain ⟨rfl, -⟩ := run_apart (apart.delete caller id _) deleted
    cases y with
    | error _ =>
      obtain ⟨-, -, rfl⟩ := Run.pure_iff.1 marked
      exact sound
    | ok _ =>
      obtain ⟨_, _, _, _, rfl, marked, passed⟩ := Run.bind_iff.1 marked
      obtain ⟨-, -, rfl⟩ := Run.pure_iff.1 passed
      exact (run_delete sound marked).1.1

/-- A request to create a secret that is not said to be deleted, or any other. -/
def Request.IsFresh : Request → Prop
  | .create _ s _ => s.deleted = false
  | _ => True

theorem sound_performAll {requests : List Request} {xs : List (Except Error Reply)}
    (apart : Keystore.Apart k) (fresh : ∀ q ∈ requests, q.IsFresh) (sound : r.Sound)
    (h : Run (Catalog.Records.world f) ((Action.custodian k).performAll requests) r t xs r') :
    r'.Sound := by
  have chains : Chains fun (r : Catalog.Records) (_ : Trace) r' => r.Sound → r'.Sound :=
    ⟨fun _ sound => sound, fun first rest sound => rest (first sound)⟩
  refine Respects.mapM chains (fun q member => respects_perform chains ?_ ?_ ?_ ?_ ?_ ?_) _ _ _ _ h sound
  · rintro c r t x r' counted sound
    obtain ⟨-, rfl⟩ := Run.ask_iff.1 counted
    exact sound
  · rintro caller s whole rfl r t x r' placed sound
    exact sound_place apart (fresh _ member) sound placed
  · exact fun _ _ _ _ _ read sound => sound_read apart sound read
  · exact fun _ _ _ _ _ read sound => sound_readPage apart sound read
  · rintro page r t x r' asked sound
    obtain ⟨rfl, answered⟩ := Run.ask_iff.1 asked
    have admitted : f.Admits (.ok (r.total q.caller.tenant), r) r x r' := answered
    exact admitted.lookup.1 ▸ sound
  · exact fun _ _ _ _ _ _ removed sound => sound_remove apart sound removed

/-- Whatever is requested of a custodian over either keystore, and whatever its collaborators answer or
fail at, with or without effect: a record holds no material, is marked as deleted exactly if it is
destroyed, and else its phase and reason go together; it is never suspended. -/
theorem records_consistent {tries : Nat} {requests : List Request} {xs : List (Except Error Reply)}
    (either : k = Action.memoryKeystore tries ∨ k = Action.barbicanKeystore tries)
    (fresh : ∀ q ∈ requests, q.IsFresh)
    (h : Run (Catalog.Records.world .any) ((Action.custodian k).performAll requests) [] t xs r) :
    ∀ p ∈ r, p.2.payload = none ∧ (p.2.deleted = true ↔ p.2.phase = .destroyed) ∧
      (p.2.deleted = false → (p.2.phase, p.2.reason) ∈ [(.preactivation, none),
        (.activation, some .keyActive), (.deactivated, some .expired)]) ∧
      p.2.phase ≠ .suspended := by
  have apart := Keystore.apart_of_either either
  have sound := sound_performAll apart fresh Catalog.Records.sound_empty h
  intro p member
  obtain ⟨payload, deleted, standing⟩ := sound.consistent p member
  refine ⟨payload, deleted, fun live => ?_, fun suspended => ?_⟩
  · have pairs := standing live
    simp only [PhaseChange.IsStanding, PhaseChange.mk.injEq] at pairs
    simpa using pairs
  · cases gone : p.2.deleted with
    | true => exact absurd (deleted.1 gone) (by simp [suspended])
    | false => exact (standing gone).phase.2 suspended

/-- The answers of collaborators besides the catalog that have no identifier issued yet. -/
def unissued : (c : Call) → c.Answer
  | .drawIdentifier => "k"
  | .getEntry _ id => .error (.noSecret id)
  | .addEntry .. => .ok ()
  | .now => ⟨100, 0⟩
  | c => Call.refused (.transport "down") c

/-- A secret that has expired by the time it is listed. -/
theorem records_consistent_of_expired :
    let caller : Caller := ⟨⟨"s", "o"⟩, "c", none⟩
    let secret : Secret :=
      { Secret.named "key" with payload := some ⟨"material"⟩, expiration := some ⟨10, 0⟩ }
    let action := (Action.custodian (Action.memoryKeystore 1)).performAll
      [.create caller secret true, .list caller ⟨10, 0⟩]
    let r := (action.run (Catalog.Records.answer unissued) []).2
    r.map (fun p => (p.1.2, p.2.phase)) = [("k", .deactivated)] ∧
      ∀ p ∈ r, p.2.payload = none ∧ p.2.deleted = false ∧ p.2.reason = some .expired := by
  intro caller secret action r
  have run := Run.of_answers (w := Catalog.Records.world .any)
    (Catalog.Records.world_answer unissued) action []
  have shown : r.map (fun p => (p.1.2, p.2.phase)) = [("k", .deactivated)] := by decide +kernel
  refine ⟨shown, fun p member => ?_⟩
  have fresh : ∀ q ∈ [Request.create caller secret true, .list caller ⟨10, 0⟩], q.IsFresh :=
    List.forall_mem_cons.2 ⟨rfl, List.forall_mem_singleton.2 trivial⟩
  obtain ⟨payload, deleted, standing, -⟩ := records_consistent (.inl rfl) fresh run p member
  have own : (p.1.2, p.2.phase) ∈ [("k", Phase.deactivated)] := shown ▸ List.mem_map_of_mem member
  obtain ⟨-, phase⟩ := Prod.mk.inj (List.mem_singleton.1 own)
  have live : p.2.deleted = false := by simp [← Bool.not_eq_true, deleted, phase]
  exact ⟨payload, live, by simpa [phase] using standing live⟩

end Custodian

end KeyCustody
