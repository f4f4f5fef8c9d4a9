import KeyCustody.Proofs.Registry.Allocation
import Mathlib.Data.List.Perm.Subperm
import Mathlib.Data.Nat.Find

/-!
# Candidates that are given

An allocation where the candidates to be drawn, and the calls on the store that fail, are given. It draws up to
the first candidate that is not found taken. If the candidates differ, that is one of the first as many as the
tenant has live identifiers, or the next.
-/

namespace KeyCustody.Registry

open Program

namespace Table

variable {t t' : Table} {tenant : Tenant} {id : String} {e : Entry}

theorem others_map {f : Row → Row} (kept : ∀ r, key (f r) = key r) :
    ((t.map fun r => if r.isFor tenant id then f r else r).filter fun r => !r.isFor tenant id) =
      t.filter fun r => !r.isFor tenant id := by
  induction t with
  | nil => rfl
  | cons r t ih =>
    cases own : r.isFor tenant id with
    | true =>
      have still : (f r).isFor tenant id = true := isFor_iff.2 ((kept r).trans (isFor_iff.1 own))
      simp only [List.map_cons, own, if_true, List.filter_cons, still, Bool.not_true, Bool.false_eq_true, if_false]
      exact ih
    | false =>
      simp only [List.map_cons, own, Bool.false_eq_true, if_false, List.filter_cons, Bool.not_false, if_true]
      exact congrArg (r :: ·) ih

theorem others_add (h : t.add tenant e = (.ok (), t')) :
    (t'.filter fun r => !r.isFor tenant e.issuedId) = t.filter fun r => !r.isFor tenant e.issuedId := by
  obtain ⟨-, ⟨-, rfl⟩ | ⟨_, -, -, rfl⟩⟩ := add_ok h
  · have own : (Row.ofEntry tenant e).isFor tenant e.issuedId = true := isFor_iff.2 rfl
    rw [List.filter_append, List.filter_cons_of_neg (by simp [own]), List.filter_nil, List.append_nil]
  · exact others_map fun _ => rfl

end Table

namespace Store

variable {s s' : Store} {tenant : Tenant} {id : String} {e : Entry}

/-- The identifiers of what stands for a tenant. -/
def issued (tenant : Tenant) : Store → List String
  | table _ rows => (rows.filter fun r => r.tenant = tenant && !r.deleted).map (·.id)
  | map entries => (entries.filter fun p => p.1.1 = tenant).map (·.1.2)

/-- The store as it is but for one key. -/
def without (tenant : Tenant) (id : String) : Store → Store
  | table isReady rows => table isReady (rows.filter fun r => !r.isFor tenant id)
  | map entries => map (entries.filter (·.1 ≠ (tenant, id)))

theorem mem_issued_of_get (h : s.get tenant id = .ok e) : id ∈ s.issued tenant := by
  obtain ⟨-, stands, -⟩ := live?_of_get h
  cases s with
  | table _ rows =>
    obtain ⟨r, found, -⟩ := Option.map_eq_some_iff.1 stands
    have standing : r.isLive tenant id = true := List.find?_some found
    obtain ⟨own, live⟩ := Bool.and_eq_true_iff.1 standing
    obtain ⟨rfl, rfl⟩ := Prod.mk.inj (Table.isFor_iff.1 own)
    exact List.mem_map.2 ⟨r, List.mem_filter.2 ⟨List.mem_of_find?_eq_some found, by simpa using live⟩, rfl⟩
  | map entries =>
    obtain ⟨before, after, rfl, -⟩ := List.lookup_eq_some_iff.1 stands
    exact List.mem_map.2 ⟨((tenant, id), e), List.mem_filter.2 ⟨by simp, by simp⟩, rfl⟩

theorem without_add : (s.add tenant e).2.without tenant e.issuedId = s.without tenant e.issuedId := by
  cases outcome : s.add tenant e with
  | mk x s' =>
    cases x with
    | error error =>
      have kept : (s.add tenant e).2 = s := add_error (congrArg Prod.fst outcome)
      rw [outcome] at kept
      exact congrArg (without tenant e.issuedId) kept
    | ok _ =>
      obtain ⟨rows, rows', rfl, rfl, added⟩ | ⟨entries, entries', rfl, rfl, added⟩ := add_ok outcome
      · exact congrArg (table true) (Table.others_add added)
      · obtain ⟨-, -, rfl⟩ := Map.add_ok added
        exact congrArg map Keyed.erase_put

end Store

/-- How calls on a store fail: the one after `n` others with the error that there is for it. An addition that
fails has had no effect, unless that is told `late`. -/
structure Troubles where
  error? : Nat → Option Error
  late : Bool

namespace Troubles

variable (b : Troubles) (n : Nat) (tenant : Tenant)

def look (id : String) (s : Store) : Except Error Entry := (b.error? n).elim (s.get tenant id) .error

def enter (e : Entry) (s : Store) : Except Error Unit × Store :=
  match b.error? n with
  | none => s.add tenant e
  | some error => (.error error, if b.late then (s.add tenant e).2 else s)

variable {b n tenant}

theorem get_of_look {id : String} {s : Store} {e : Entry} (h : b.look n tenant id s = .ok e) :
    s.get tenant id = .ok e := by
  unfold look at h
  cases fails : b.error? n with
  | none => rwa [fails] at h
  | some error =>
    rw [fails] at h
    cases h

theorem without_enter {e : Entry} {s s' : Store} {x : Except Error Unit} (h : b.enter n tenant e s = (x, s')) :
    s'.without tenant e.issuedId = s.without tenant e.issuedId := by
  obtain rfl : (b.enter n tenant e s).2 = s' := congrArg Prod.snd h
  unfold enter
  cases b.error? n with
  | none => exact Store.without_add
  | some error =>
    cases b.late with
    | true => exact Store.without_add
    | false => rfl

end Troubles

/-- A store in the course of an allocation: the candidates drawn so far, and the calls made on it. -/
structure Drawing where
  store : Store
  drawn : Nat
  called : Nat

def Drawing.answer (candidate : Nat → String) (b : Troubles) (d : Drawing) : (c : Call) → c.Answer × Drawing
  | .drawIdentifier => (candidate d.drawn, { d with drawn := d.drawn + 1 })
  | .getEntry tenant id => (b.look d.called tenant id d.store, { d with called := d.called + 1 })
  | .addEntry tenant e =>
    let (x, store) := b.enter d.called tenant e d.store
    (x, { d with store := store, called := d.called + 1 })
  | c => (c.refused (noneFree 0), d)

section
variable {candidate : Nat → String} {b : Troubles} {s : Store} {tenant : Tenant} {e : Entry} {tries k left : Nat}
  {t : Trace} {r : Except Error String} {d : Drawing} {error : Error}

/-- The calls that draw the first `k` candidates and look them up. -/
def looks (candidate : Nat → String) (b : Troubles) (s : Store) (tenant : Tenant) (k : Nat) : Trace :=
  (List.range k).flatMap fun i => probe tenant (candidate i) (b.look i tenant (candidate i) s)

theorem looks_succ : looks candidate b s tenant (k + 1) =
    looks candidate b s tenant k ++ probe tenant (candidate k) (b.look k tenant (candidate k) s) := by
  rw [looks, List.range_succ, List.flatMap_append, List.flatMap_singleton]
  rfl

/-- The runs of what is left of an allocation. -/
abbrev Searches (candidate : Nat → String) (b : Troubles) (tenant : Tenant) (e : Entry) (tries left : Nat)
    (d : Drawing) (t : Trace) (r : Except Error String) (d' : Drawing) : Prop :=
  Run (answering (Drawing.answer candidate b))
    (allocateWithin tries Action.registry (Call.candidates Action.make tries).draw tenant e left).run d t r d'

theorem searches_taken {e' : Entry} (taken : b.look k tenant (candidate k) s = .ok e')
    (rest : Searches candidate b tenant e tries left ⟨s, k + 1, k + 1⟩ t r d) :
    Searches candidate b tenant e tries (left + 1) ⟨s, k, k⟩ (probe tenant (candidate k) (.ok e') ++ t) r d := by
  have looked : Drawing.answer candidate b ⟨s, k + 1, k⟩ (.getEntry tenant (candidate k)) =
      (.ok e', ⟨s, k + 1, k + 1⟩) := congrArg (·, _) taken
  unfold Searches allocateWithin
  exact .call rfl (.call looked rest)

theorem searches_failed (failed : b.look k tenant (candidate k) s = .error error)
    (other : error.isNotFound = false) :
    Searches candidate b tenant e tries (left + 1) ⟨s, k, k⟩ (probe tenant (candidate k) (.error error))
      (.error error) ⟨s, k + 1, k + 1⟩ := by
  have looked : Drawing.answer candidate b ⟨s, k + 1, k⟩ (.getEntry tenant (candidate k)) =
      (.error error, ⟨s, k + 1, k + 1⟩) := congrArg (·, _) failed
  unfold Searches allocateWithin
  refine .call rfl (.call looked ?_)
  change Run _ (if error.isNotFound then _ else pure (Except.error error)) _ _ _ _
  rw [other]
  exact .done _ _

theorem searches_free {x : Except Error Unit} {s' : Store} (free : b.look k tenant (candidate k) s = .error error)
    (missing : error.isNotFound = true)
    (added : b.enter (k + 1) tenant { e with issuedId := candidate k } s = (x, s')) :
    Searches candidate b tenant e tries (left + 1) ⟨s, k, k⟩
      (probe tenant (candidate k) (.error error) ++ [⟨.addEntry tenant { e with issuedId := candidate k }, x⟩])
      (x.map fun _ => candidate k) ⟨s', k + 1, k + 2⟩ := by
  have looked : Drawing.answer candidate b ⟨s, k + 1, k⟩ (.getEntry tenant (candidate k)) =
      (.error error, ⟨s, k + 1, k + 1⟩) := congrArg (·, _) free
  have entered : Drawing.answer candidate b ⟨s, k + 1, k + 1⟩
      (.addEntry tenant { e with issuedId := candidate k }) = (x, ⟨s', k + 1, k + 2⟩) := by
    simp only [Drawing.answer, added]
    rfl
  unfold Searches allocateWithin
  refine .call rfl (.call looked ?_)
  change Run _ (if error.isNotFound then _ else pure (Except.error error)) _ _ _ _
  rw [missing]
  exact .call entered (.done _ _)

/-- Candidates that are taken are passed over. -/
theorem searches_passing (taken : ∀ i < k, ∃ e', b.look i tenant (candidate i) s = .ok e')
    (rest : Searches candidate b tenant e tries left ⟨s, k, k⟩ t r d) :
    Searches candidate b tenant e tries (left + k) ⟨s, 0, 0⟩ (looks candidate b s tenant k ++ t) r d := by
  -- The last candidate passed over becomes the first call of what is left.
  induction k generalizing left t with
  | zero => exact rest
  | succ k ih =>
    obtain ⟨e', found⟩ := taken k k.lt_succ_self
    have round := ih (fun i early => taken i (Nat.lt_succ_of_lt early)) (searches_taken found rest)
    rw [looks_succ, found, List.append_assoc, Nat.add_succ, ← Nat.succ_add]
    exact round

/-- The first candidate that is not found taken is the one after `k` others; looking it up failed. -/
structure FirstMiss (candidate : Nat → String) (b : Troubles) (s : Store) (tenant : Tenant) (k : Nat)
    (error : Error) : Prop where
  taken : ∀ i < k, ∃ e, b.look i tenant (candidate i) s = .ok e
  missed : b.look k tenant (candidate k) s = .error error

/-- Among candidates that differ, one more than stand for the tenant, one is not found taken. -/
theorem exists_miss (different : Function.Injective candidate) :
    ∃ k, k ≤ (s.issued tenant).length ∧ ∃ error, b.look k tenant (candidate k) s = .error error := by
  -- Otherwise that many and one candidates, all different, would be among what stands for the tenant.
  by_contra none
  have taken : ∀ k < (s.issued tenant).length + 1, candidate k ∈ s.issued tenant := by
    intro k early
    cases looked : b.look k tenant (candidate k) s with
    | ok e => exact Store.mem_issued_of_get (Troubles.get_of_look looked)
    | error error => exact absurd ⟨k, Nat.le_of_lt_succ early, error, looked⟩ none
  have distinct : ((List.range ((s.issued tenant).length + 1)).map candidate).Nodup :=
    List.nodup_range.map different
  have within : (List.range ((s.issued tenant).length + 1)).map candidate ⊆ s.issued tenant := by
    intro id drawn
    obtain ⟨k, early, rfl⟩ := List.mem_map.1 drawn
    exact taken k (List.mem_range.1 early)
  have few := (List.subperm_of_subset distinct within).length_le
  rw [List.length_map, List.length_range] at few
  exact Nat.not_succ_le_self _ few

theorem exists_firstMiss (different : Function.Injective candidate) :
    ∃ k ≤ (s.issued tenant).length, ∃ error, FirstMiss candidate b s tenant k error := by
  classical
  have misses := @exists_miss candidate b s tenant different
  obtain ⟨few, error, missed⟩ := Nat.find_spec misses
  refine ⟨Nat.find misses, few, error, fun i early => ?_, missed⟩
  cases looked : b.look i tenant (candidate i) s with
  | ok e => exact ⟨e, rfl⟩
  | error error => exact absurd ⟨Nat.le_trans (Nat.le_of_lt early) few, error, looked⟩ (Nat.find_min misses early)

end

/-- An allocation that may try enough candidates draws and looks up those up to the first that is not found taken,
and no other. If it was not found, the entry is added under it, which decides, and nothing changes under other
keys; any other failure is passed on. If the candidates differ, there are at most as many before it as identifiers
stand for the tenant, so some number of tries is enough. -/
theorem allocate_first_free (candidate : Nat → String) (b : Troubles) (s : Store) (tenant : Tenant) (e : Entry) :
    (∀ k error, FirstMiss candidate b s tenant k error → ∀ tries, k < tries →
      let allocation := (Action.registry.allocate (Call.candidates Action.make tries) tenant e).run
      let named := { e with issuedId := candidate k }
      (error.isNotFound = true → ∃ x s', b.enter (k + 1) tenant named s = (x, s') ∧
        allocation.trace (Drawing.answer candidate b) ⟨s, 0, 0⟩ =
          looks candidate b s tenant (k + 1) ++ [⟨.addEntry tenant named, x⟩] ∧
        allocation.run (Drawing.answer candidate b) ⟨s, 0, 0⟩ =
          (x.map fun _ => candidate k, ⟨s', k + 1, k + 2⟩) ∧
        s'.without tenant (candidate k) = s.without tenant (candidate k)) ∧
      (error.isNotFound = false →
        allocation.trace (Drawing.answer candidate b) ⟨s, 0, 0⟩ = looks candidate b s tenant (k + 1) ∧
        allocation.run (Drawing.answer candidate b) ⟨s, 0, 0⟩ = (.error error, ⟨s, k + 1, k + 1⟩))) ∧
    (Function.Injective candidate →
      ∃ k ≤ (s.issued tenant).length, ∃ error, FirstMiss candidate b s tenant k error) := by
  refine ⟨fun k error first tries enough => ?_, exists_firstMiss⟩
  obtain ⟨rest, rfl⟩ : ∃ rest, tries = rest + 1 + k := ⟨tries - (k + 1), by omega⟩
  have last : looks candidate b s tenant (k + 1) =
      looks candidate b s tenant k ++ probe tenant (candidate k) (.error error) := by
    rw [looks_succ, first.missed]
  refine ⟨fun free => ?_, fun other => ?_⟩
  · cases added : b.enter (k + 1) tenant { e with issuedId := candidate k } s with
    | mk x s' =>
      obtain ⟨calls, ended⟩ := (searches_passing first.taken (searches_free first.missed free added)).eval
      rw [← List.append_assoc, ← last] at calls
      exact ⟨x, s', rfl, calls, ended, Troubles.without_enter added⟩
  · obtain ⟨calls, ended⟩ := (searches_passing first.taken (searches_failed first.missed other)).eval
    rw [← last] at calls
    exact ⟨calls, ended⟩

/-- Two candidates are taken; the row of the third was deleted, and is revived. -/
theorem allocate_first_free_revives :
    let tenant : Tenant := ⟨"space", "org"⟩
    let taken : Table := [⟨tenant, "a", "stored", "", false⟩, ⟨tenant, "b", "", "ordered", false⟩]
    (Action.registry.allocate (Call.candidates Action.make 3) tenant (.ofSecret "new")).run.run
        (Drawing.answer (fun n => ["a", "b", "c"].getD n "") ⟨fun _ => none, false⟩)
        ⟨.table true (taken ++ [⟨tenant, "c", "old", "", true⟩]), 0, 0⟩ =
      (.ok "c", ⟨.table true (taken ++ [⟨tenant, "c", "new", "", false⟩]), 3, 4⟩) := by
  intro tenant taken
  let candidate := fun n => ["a", "b", "c"].getD n ""
  let s : Store := .table true (taken ++ [⟨tenant, "c", "old", "", true⟩])
  have first : FirstMiss candidate ⟨fun _ => none, false⟩ s tenant 2 (.noSecret "c") := by
    refine ⟨fun i early => ?_, by decide +kernel⟩
    match i, early with
    | 0, _ => exact ⟨⟨"a", some "stored", none⟩, by decide +kernel⟩
    | 1, _ => exact ⟨⟨"b", none, some "ordered"⟩, by decide +kernel⟩
  have allocated := (allocate_first_free candidate ⟨fun _ => none, false⟩ s tenant (.ofSecret "new")).1 2 _ first 3
  obtain ⟨x, s', added, -, ended, -⟩ := (allocated (by decide)).1 rfl
  have checked : ({ Entry.ofSecret "new" with issuedId := candidate 2 } : Entry).check = .ok () := by decide +kernel
  have entered : s.add tenant { Entry.ofSecret "new" with issuedId := candidate 2 } =
      (.ok (), .table true (taken ++ [⟨tenant, "c", "new", "", false⟩])) := by
    rw [Store.add, Table.add, checked]
    rfl
  cases added.symm.trans entered
  exact ended

end KeyCustody.Registry
