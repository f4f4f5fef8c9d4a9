import KeyCustody.Proofs.Custodian.Request
import KeyCustody.Proofs.Registry.Allocation
import KeyCustody.Proofs.Registry.Lookup
import Mathlib.Control.Monad.Basic

/-!
# Creations that fail

A creation posts the material, adds a row for it, and stores the record. When it fails, what it has
done by then is undone, the latest first, up to the first step for which that fails.
-/

namespace KeyCustody.Custodian

open Program
open Registry (Entry Store Search probe probes)

/-- A step of a creation that a later failure undoes. -/
inductive Step where
  | material (caller : Caller) (ref : String)
  | row (tenant : Tenant) (id : String)
  deriving DecidableEq

namespace Step

def undo : Step → ExceptT Error Action Unit
  | material caller ref => ExceptT.mk (Action.make (.deleteSecret caller ref))
  | row tenant id => ExceptT.mk (Action.make (.deleteEntry tenant id))

/-- The store once the step is undone. -/
def undone (s : Store) : Step → Store
  | material .. => s
  | row tenant id => (s.delete tenant id).2

/-- The step that a call has taken. -/
def taken? : Event → Option Step
  | ⟨.postSecret caller _ _ _, .ok ref⟩ => some (.material caller ref)
  | ⟨.addEntry tenant e, .ok _⟩ => some (.row tenant e.issuedId)
  | _ => none

/-- The step that a call was to undo, and whether it did. -/
def undoing? : Event → Option (Step × Bool)
  | ⟨.deleteSecret caller ref, x⟩ => some (.material caller ref, Except.isOk x)
  | ⟨.deleteEntry tenant id, x⟩ => some (.row tenant id, Except.isOk x)
  | _ => none

end Step

/-- The error of a call that a creation cannot go on after. That a candidate is not found means that
it is free. -/
def failure? : Event → Option Error
  | ⟨.postSecret .., .error e⟩ | ⟨.addEntry .., .error e⟩ | ⟨.createRecord .., .error e⟩ => some e
  | ⟨.getEntry .., .error e⟩ => if e.isNotFound then none else some e
  | _ => none

/-- The steps taken in a trace. -/
def steps (t : Trace) : List Step := t.filterMap Step.taken?

/-- The attempts in a trace to undo a step, and whether they succeeded. -/
def undoings (t : Trace) : List (Step × Bool) := t.filterMap Step.undoing?

/-- The errors in a trace that end a creation. -/
def failures (t : Trace) : List Error := t.filterMap failure?

/-- Steps are undone in order, up to the first for which that fails. -/
inductive Undone : List Step → List (Step × Bool) → Prop
  | all : Undone [] []
  | next {x : Step} {rest : List Step} {tried : List (Step × Bool)} (h : Undone rest tried) :
    Undone (x :: rest) ((x, true) :: tried)
  | halt {x : Step} {rest : List Step} : Undone (x :: rest) [(x, false)]

section
variable {t t' : Trace}

@[simp] theorem steps_append : steps (t ++ t') = steps t ++ steps t' := List.filterMap_append

@[simp] theorem undoings_append : undoings (t ++ t') = undoings t ++ undoings t' :=
  List.filterMap_append

@[simp] theorem failures_append : failures (t ++ t') = failures t ++ failures t' :=
  List.filterMap_append

end

/-! ## Compensations -/

section
variable {x : Step} {xs : List Step} {tried : List (Step × Bool)} {t : Trace} {s s' : Store}

theorem Undone.complete (h : Undone xs tried) (well : ∀ u ∈ tried, u.2 = true) :
    tried = xs.map fun x => (x, true) := by
  induction h with
  | all => rfl
  | next _ ih =>
    obtain ⟨-, rest⟩ := List.forall_mem_cons.1 well
    rw [ih rest, List.map_cons]
  | halt => exact absurd (well _ List.mem_cons_self) Bool.false_ne_true

theorem Undone.halts (h : Undone xs tried) (failed : ∃ u ∈ tried, u.2 = false) :
    ∃ before x after, xs = before ++ x :: after ∧
      tried = before.map (fun x => (x, true)) ++ [(x, false)] := by
  induction h with
  | all =>
    obtain ⟨_, member, -⟩ := failed
    cases member
  | next _ ih =>
    obtain ⟨u, member, failed⟩ := failed
    rcases List.mem_cons.1 member with rfl | member
    · cases failed
    · obtain ⟨before, x, after, rfl, rfl⟩ := ih ⟨u, member, failed⟩
      exact ⟨_ :: before, x, after, rfl, rfl⟩
  | halt => exact ⟨[], _, _, rfl, rfl⟩

theorem run_undo {r : Except Error Unit} (h : Run (Store.world .clean) x.undo.run s t r s') :
    steps t = [] ∧ failures t = [] ∧ undoings t = [(x, r.isOk)] ∧ (r = .ok () → s' = x.undone s) := by
  cases x with
  | material caller ref =>
    obtain ⟨rfl, answered⟩ := Run.ask_iff.1 h
    exact ⟨rfl, rfl, rfl, fun _ => answered⟩
  | row tenant id =>
    obtain ⟨rfl, answered⟩ := Run.ask_iff.1 h
    refine ⟨rfl, rfl, rfl, ?_⟩
    rintro rfl
    have deleted : Fault.clean.Admits (s.delete tenant id) s (.ok ()) s' := answered
    exact (congrArg Prod.snd deleted.ok).symm

/-- Compensations of steps undo them in order, up to the first for which that fails. -/
theorem run_undoAll {pending rest : List (Compensation Action)} {outcome : Ledger.Outcome}
    (same : pending.map Compensation.undo = xs.map Step.undo)
    (h : Run (Store.world .clean) (Ledger.undoAll pending) s t (outcome, rest) s') :
    steps t = [] ∧ failures t = [] ∧ Undone xs (undoings t) ∧
      ((∀ u ∈ undoings t, u.2 = true) → s' = xs.foldl Step.undone s) := by
  induction xs generalizing pending s t with
  | nil =>
    obtain rfl : pending = [] := List.map_eq_nil_iff.1 same
    obtain ⟨rfl, -, rfl⟩ := Run.pure_iff.1 h
    exact ⟨rfl, rfl, .all, fun _ => rfl⟩
  | cons x xs ih =>
    obtain ⟨c, pending, rfl⟩ : ∃ c cs, pending = c :: cs := by
      cases pending with
      | nil => cases same
      | cons c cs => exact ⟨c, cs, rfl⟩
    obtain ⟨undoes, same⟩ := List.cons.inj same
    obtain ⟨t₁, s₁, t₂, rfl, first, others⟩ | ⟨error, -, first⟩ := run_undoAll_cons h
    · rw [undoes] at first
      obtain ⟨took, failed, tried, undone⟩ := run_undo first
      obtain ⟨took', failed', others, restored⟩ := ih same others
      rw [steps_append, failures_append, undoings_append, took, took', failed, failed', tried]
      refine ⟨rfl, rfl, .next others, fun well => ?_⟩
      obtain ⟨-, well⟩ := List.forall_mem_cons.1 well
      rw [restored well, undone rfl, List.foldl_cons]
    · rw [undoes] at first
      obtain ⟨took, failed, tried, -⟩ := run_undo first
      refine ⟨took, failed, tried ▸ .halt, fun well => ?_⟩
      rw [tried] at well
      exact absurd (well _ List.mem_cons_self) Bool.false_ne_true

theorem run_rollBack {k : Keystore Action} {operation : String} {ledger ledger' : Ledger Action}
    (same : ledger.pending.map Compensation.undo = xs.map Step.undo)
    (incomplete : ledger.completed = false)
    (h : Run (Store.world .clean) ((Action.custodian k).rollBack operation ledger) s t ledger' s') :
    steps t = [] ∧ failures t = [] ∧ Undone xs (undoings t) ∧
      ((∀ u ∈ undoings t, u.2 = true) → s' = xs.foldl Step.undone s) := by
  obtain ⟨t₁, ⟨outcome, rest⟩, s₁, t₂, rfl, tried, counted, counts⟩ := run_rollBack_undoAll incomplete h
  obtain rfl : s' = s₁ := by
    refine counted.unchanged fun v member _ _ answered => ?_
    obtain ⟨c, rfl⟩ := counts v member
    exact answered
  have quiet : steps t₂ = [] ∧ failures t₂ = [] ∧ undoings t₂ = [] := by
    refine ⟨?_, ?_, ?_⟩ <;>
    · refine List.filterMap_eq_nil_iff.2 fun v member => ?_
      obtain ⟨c, rfl⟩ := counts v member
      rfl
  obtain ⟨took', failed', untried'⟩ := quiet
  obtain ⟨took, failed, undone, restored⟩ := run_undoAll same tried
  simp only [List.append_nil, steps_append, failures_append, undoings_append, took, took', failed,
    failed', untried']
  exact ⟨trivial, trivial, undone, restored⟩

end

/-! ## Creation -/

/-- Why a creation failed: the one call that it could not go on after, or no candidate that is free
among those it may try. -/
def Cause (tries : Nat) (tenant : Tenant) (t : Trace) (error : Error) : Prop :=
  failures t = [error] ∨
    failures t = [] ∧ error = Registry.noneFree tries ∧
      ∃ found, found.length = tries ∧ probes tenant found <:+: t

section
variable {tries : Nat} {tenant : Tenant} {caller : Caller} {t : Trace} {s s' : Store}

section
variable {t' : Trace} {error : Error}

/-- A cause stays one after calls that have not failed. -/
theorem Cause.after (h : Cause tries tenant t' error) (well : failures t = []) :
    Cause tries tenant (t ++ t') error := by
  rw [Cause, failures_append, well, List.nil_append]
  refine h.imp_right fun ⟨empty, same, found, all, part⟩ => ⟨empty, same, found, all, ?_⟩
  exact part.trans (List.suffix_append t t').isInfix

theorem Cause.before (h : Cause tries tenant t error) (well : failures t' = []) :
    Cause tries tenant (t ++ t') error := by
  rw [Cause, failures_append, well, List.append_nil]
  refine h.imp_right fun ⟨empty, same, found, all, part⟩ => ⟨empty, same, found, all, ?_⟩
  exact part.trans (List.prefix_append t t').isInfix

end

theorem probes_quiet {found : List (String × Entry)} :
    steps (probes tenant found) = [] ∧ undoings (probes tenant found) = [] ∧
      failures (probes tenant found) = [] := by
  induction found with
  | nil => exact ⟨rfl, rfl, rfl⟩
  | cons p found ih => exact ih

theorem failures_probe {id : String} {error : Error} :
    failures (probe tenant id (.error error)) = if error.isNotFound then [] else [error] := by
  have shown : failure? ⟨.getEntry tenant id, .error error⟩ =
    if error.isNotFound then none else some error := rfl
  by_cases missing : error.isNotFound = true
  · rw [if_pos missing] at shown ⊢
    exact List.filterMap_cons_none shown
  · rw [if_neg missing] at shown ⊢
    exact List.filterMap_cons_some shown

theorem run_allocate {e : Entry} {r : Except Error String} (unique : s.Unique)
    (h : Run (Store.world .clean) (Action.registry.allocate (Call.candidates Action.make tries) tenant
      e).run s t r s') :
    undoings t = [] ∧ match r with
      | .ok id => steps t = [.row tenant id] ∧ failures t = [] ∧
        ∀ tenant' id', (s'.delete tenant id).2.get tenant' id' = s.get tenant' id'
      | .error error => steps t = [] ∧ s' = s ∧ Cause tries tenant t error := by
  obtain ⟨found, last, rest, rfl, all, search⟩ := Registry.run_allocate h
  obtain ⟨took, untried, failed⟩ := @probes_quiet tenant found
  rw [undoings_append, steps_append, failures_append, untried, took, failed]
  cases search with
  | noneLeft =>
    refine ⟨rfl, rfl, rfl, .inr ⟨?_, rfl, found, all.symm, List.infix_append' [] _ _⟩⟩
    rw [failures_append, failed]
    rfl
  | failed id other =>
    refine ⟨rfl, rfl, rfl, .inl ?_⟩
    rw [failures_append, failed, failures_probe, other]
    rfl
  | added id x free answered =>
    cases x with
    | ok _ =>
      refine ⟨rfl, rfl, ?_, fun _ _ => Store.get_delete_of_add unique answered.ok⟩
      rw [failures_append, failures_probe, free]
      rfl
    | error error =>
      refine ⟨rfl, rfl, answered.error fun _ => Store.add_error, .inl ?_⟩
      rw [failures_append, failed, failures_append, failures_probe, free]
      rfl

/-- A creation that nothing of has been undone: its ledger holds what undoes the steps taken, and
undoing them brings the store back. -/
structure Underway (caller : Caller) (s : Store) (t : Trace) (ledger : Ledger Action) (s' : Store) :
    Prop where
  untried : undoings t = []
  incomplete : ledger.completed = false
  entered : ledger.pending.map Compensation.undo = (steps t).reverse.map Step.undo
  order : ∃ ref id, steps t <+: [.material caller ref, .row caller.tenant id]
  restores : ∀ tenant id, ((steps t).reverse.foldl Step.undone s').get tenant id = s.get tenant id

theorem run_store {secret : Secret} {material : Sealed} {created : Keystore.Creation Action}
    (unique : s.Unique)
    (h : Run (Store.world .clean) (Keystore.Networked.store Action.registry
      (Call.barbican Action.make) (Call.candidates Action.make tries) caller secret material .empty)
      s t created s') :
    Underway caller s t created.ledger s' ∧ match created.result with
      | .ok _ => failures t = []
      | .error error => Cause tries caller.tenant t error := by
  unfold Keystore.Networked.store at h
  obtain ⟨_, x, s, t, rfl, posted, stored⟩ := Run.bind_iff.1 h
  obtain ⟨rfl, rfl⟩ := Run.ask_iff.1 posted
  cases x with
  | error error =>
    obtain ⟨rfl, rfl, rfl⟩ := Run.pure_iff.1 stored
    exact ⟨⟨rfl, rfl, rfl, ⟨"", "", List.nil_prefix⟩, fun _ _ => rfl⟩, .inl rfl⟩
  | ok ref =>
    obtain ⟨t, x, s₁, _, rfl, allocated, ended⟩ := Run.bind_iff.1 stored
    obtain ⟨untried, found⟩ := run_allocate unique allocated
    have start : steps [⟨.postSecret caller secret.name material .text, .ok ref⟩] =
      [.material caller ref] := rfl
    cases x with
    | error error =>
      obtain ⟨rfl, rfl, rfl⟩ := Run.pure_iff.1 ended
      obtain ⟨took, rfl, cause⟩ := found
      rw [List.append_nil]
      refine ⟨⟨untried, rfl, ?_, ⟨ref, "", ?_⟩, ?_⟩, cause.after rfl⟩
      · rw [steps_append, start, took]
        rfl
      · rw [steps_append, start, took]
        exact List.prefix_append [_] [_]
      · rw [steps_append, start, took]
        exact fun _ _ => rfl
    | ok id =>
      obtain ⟨rfl, rfl, rfl⟩ := Run.pure_iff.1 ended
      obtain ⟨took, failed, restores⟩ := found
      rw [List.append_nil]
      refine ⟨⟨untried, rfl, ?_, ⟨ref, id, ?_⟩, ?_⟩, failed⟩
      · rw [steps_append, start, took]
        rfl
      · rw [steps_append, start, took]
        exact List.prefix_rfl
      · rw [steps_append, start, took]
        exact restores

/-- What was done by a creation that failed, and what was undone of it. -/
structure Failed (tries : Nat) (caller : Caller) (secret : Secret) (s : Store) (t : Trace)
    (error : Error) (s' : Store) : Prop where
  parts : ∃ t₁ t₂, t = t₁ ++ t₂ ∧ undoings t₁ = [] ∧ steps t₂ = [] ∧ failures t₂ = []
  order : ∃ ref id, steps t <+: [.material caller ref, .row caller.tenant id]
  undone : Undone (steps t).reverse (undoings t)
  restored : (∀ u ∈ undoings t, u.2 = true) → ∀ tenant id, s'.get tenant id = s.get tenant id
  cause : failures t = [] ∧ secret.validateNew = .error error ∨ Cause tries caller.tenant t error

theorem Failed.extend {t' : Trace} {secret : Secret} {error : Error}
    (h : Failed tries caller secret s t error s') (took : steps t' = []) (untried : undoings t' = [])
    (well : failures t' = []) : Failed tries caller secret s (t ++ t') error s' := by
  obtain ⟨⟨t₁, t₂, rfl, untried₁, took₂, failed₂⟩, order, undone, restored, cause⟩ := h
  have taken : steps (t₁ ++ t₂ ++ t') = steps (t₁ ++ t₂) := by
    rw [steps_append, took, List.append_nil]
  have tried : undoings (t₁ ++ t₂ ++ t') = undoings (t₁ ++ t₂) := by
    rw [undoings_append, untried, List.append_nil]
  have failed : failures (t₁ ++ t₂ ++ t') = failures (t₁ ++ t₂) := by
    rw [failures_append, well, List.append_nil]
  refine ⟨⟨t₁, t₂ ++ t', List.append_assoc .., untried₁, ?_, ?_⟩, taken ▸ order, ?_, ?_, ?_⟩
  · rw [steps_append, took₂, took]
    rfl
  · rw [failures_append, failed₂, well]
    rfl
  · rw [taken, tried]
    exact undone
  · rw [tried]
    exact restored
  · rw [failed]
    exact cause.imp_right fun cause => cause.before well

/-- A creation that is underway and fails is undone. -/
theorem Underway.rollBack {k : Keystore Action} {operation : String} {ledger ledger' : Ledger Action}
    {t₁ t₂ : Trace} {s₁ : Store} {secret : Secret} {error : Error}
    (underway : Underway caller s t₁ ledger s₁) (cause : Cause tries caller.tenant t₁ error)
    (h : Run (Store.world .clean) ((Action.custodian k).rollBack operation ledger) s₁ t₂ ledger' s') :
    Failed tries caller secret s (t₁ ++ t₂) error s' := by
  obtain ⟨untried, incomplete, entered, order, restores⟩ := underway
  obtain ⟨took, failed, undone, restored⟩ := run_rollBack entered incomplete h
  have taken : steps (t₁ ++ t₂) = steps t₁ := by rw [steps_append, took, List.append_nil]
  have tried : undoings (t₁ ++ t₂) = undoings t₂ := by rw [undoings_append, untried, List.nil_append]
  refine ⟨⟨t₁, t₂, rfl, untried, took, failed⟩, taken ▸ order, ?_, ?_, .inr (cause.before failed)⟩
  · rw [taken, tried]
    exact undone
  · rw [tried]
    intro well tenant id
    rw [restored well]
    exact restores tenant id

theorem Underway.extend {t' : Trace} {ledger : Ledger Action} (h : Underway caller s t ledger s')
    (took : steps t' = []) (untried : undoings t' = []) : Underway caller s (t ++ t') ledger s' := by
  have same : steps (t ++ t') = steps t := by rw [steps_append, took, List.append_nil]
  refine ⟨?_, h.incomplete, same ▸ h.entered, same ▸ h.order, same ▸ h.restores⟩
  rw [undoings_append, h.untried, untried]
  rfl

theorem create_of_material {secret : Secret} {material : Sealed} {ledger : Ledger Action}
    (supplied : secret.material? = some material) :
    (Action.barbicanKeystore tries).create caller secret ledger =
      Keystore.Networked.store Action.registry (Call.barbican Action.make)
        (Call.candidates Action.make tries) caller secret material ledger := by
  change Keystore.Networked.create Action.registry (Call.barbican Action.make)
    (Call.candidates Action.make tries) caller secret ledger = _
  rw [Keystore.Networked.create, supplied]

theorem run_place {secret : Secret} {error : Error} {ledger : Ledger Action} (unique : s.Unique)
    (supplied : secret.hasMaterial = true)
    (h : Run (Store.world .clean) ((Action.custodian (Action.barbicanKeystore tries)).place caller
      secret) s t (.error error, ledger) s') :
    Failed tries caller { secret with name := Text.trim secret.name } s t error s' := by
  have supplied : { secret with name := Text.trim secret.name : Secret }.hasMaterial = true := supplied
  obtain ⟨material, supplied⟩ := Option.isSome_iff_exists.1 supplied
  cases run_place_error h with
  | invalid violated =>
    exact ⟨⟨[], [], rfl, rfl, rfl, rfl⟩, ⟨"", "", List.nil_prefix⟩, .all, fun _ _ _ => rfl,
      .inl ⟨rfl, violated⟩⟩
  | refused made result undone =>
    rw [create_of_material supplied] at made
    obtain ⟨underway, outcome⟩ := run_store unique made
    rw [result] at outcome
    exact underway.rollBack outcome undone
  | unrecorded made result _ read declined undone =>
    rw [create_of_material supplied] at made
    obtain ⟨underway, outcome⟩ := run_store unique made
    rw [result] at outcome
    obtain rfl := read
    obtain rfl := declined
    refine Underway.rollBack (underway.extend rfl rfl) (.inl ?_) undone
    rw [failures_append, outcome]
    rfl

/-- A creation of supplied material that fails has done nothing, or posted the material, or also added
a row for it. It then goes back, the row first, and as far as each step can be undone; if all could, no
lookup in the store is answered differently from before. Its error is the one that stopped it. -/
theorem failed_creation_undone {secret : Secret} {whole : Bool} {error : Error} (unique : s.Unique)
    (supplied : secret.hasMaterial = true)
    (h : Run (Store.world .clean) ((Action.custodian (Action.barbicanKeystore tries)).create caller
      secret whole).run s t (.error error) s') :
    (∃ t₁ t₂, t = t₁ ++ t₂ ∧ undoings t₁ = [] ∧ steps t₂ = [] ∧ failures t₂ = []) ∧
    (∃ ref id, steps t <+: [.material caller ref, .row caller.tenant id]) ∧
    ((∀ u ∈ undoings t, u.2 = true) →
      undoings t = (steps t).reverse.map (fun x => (x, true)) ∧
        ∀ tenant id, s'.get tenant id = s.get tenant id) ∧
    ((∃ u ∈ undoings t, u.2 = false) →
      ∃ before x after, (steps t).reverse = before ++ x :: after ∧
        undoings t = before.map (fun x => (x, true)) ++ [(x, false)]) ∧
    (failures t = [error] ∨ failures t = [] ∧
      ({ secret with name := Text.trim secret.name }.validateNew = .error error ∨
        error = Registry.noneFree tries ∧
          ∃ found, found.length = tries ∧ probes caller.tenant found <:+: t)) := by
  unfold create counted at h
  obtain ⟨_, r, s₁, _, rfl, requested, counted⟩ := Run.bind_iff.1 h
  obtain ⟨_, _, _, _, rfl, asked, last⟩ := Run.bind_iff.1 counted
  obtain ⟨rfl, rfl⟩ := Run.ask_iff.1 asked
  obtain ⟨rfl, rfl, rfl⟩ := Run.pure_iff.1 last
  obtain ⟨t, ⟨x, ledger⟩, _, _, rfl, placed, passed⟩ := Run.bind_iff.1 requested
  obtain ⟨rfl, same, rfl⟩ := Run.pure_iff.1 passed
  cases x with
  | ok _ => cases same
  | error refused =>
    obtain rfl := Except.error.inj same
    rw [List.append_nil, List.append_nil]
    have counts : ∀ c, steps [⟨.count c, ()⟩] = [] := fun _ => rfl
    obtain ⟨parts, order, undone, restored, cause⟩ :=
      (run_place unique supplied placed).extend (counts _) rfl rfl
    refine ⟨parts, order, fun well => ⟨undone.complete well, restored well⟩, undone.halts, ?_⟩
    obtain ⟨empty, invalid⟩ | same | ⟨empty, none⟩ := cause
    · exact .inr ⟨empty, .inl invalid⟩
    · exact .inl same
    · exact .inr ⟨empty, .inr none⟩

/-- The answers of collaborators besides the store of which only the catalog does nothing. -/
def withoutCatalog : (c : Call) → c.Answer
  | .postSecret .. => .ok "r"
  | .deleteSecret .. => .ok ()
  | .drawIdentifier => "k"
  | c => Call.refused (.catalog "down" none) c

/-- The catalog refuses the record of material that has been posted. -/
theorem failed_creation_undone_without_catalog :
    let caller : Caller := ⟨⟨"s", "o"⟩, "c", none⟩
    let secret : Secret := { Secret.named "key" with payload := some ⟨"material"⟩ }
    let action := ((Action.custodian (Action.barbicanKeystore 1)).create caller secret true).run
    let t := action.trace (Store.answer withoutCatalog) (.table true [])
    let ended := action.run (Store.answer withoutCatalog) (.table true [])
    ended.1 = .error (.catalog "down" none) ∧
      steps t = [.material caller "r", .row caller.tenant "k"] ∧
      undoings t = [(.row caller.tenant "k", true), (.material caller "r", true)] ∧
      ∀ tenant id, ended.2.get tenant id = .error (.noSecret id) := by
  intro caller secret action t ended
  have run := Run.of_answers (w := Store.world .clean) (Store.world_answer withoutCatalog) action
    (.table true [])
  have refused : ended.1 = .error (.catalog "down" none) := by decide +kernel
  have took : steps t = [.material caller "r", .row caller.tenant "k"] := by decide +kernel
  have tried : undoings t = [(.row caller.tenant "k", true), (.material caller "r", true)] := by
    decide +kernel
  have unique : (Store.table true []).Unique := List.nodup_nil
  rw [refused] at run
  obtain ⟨-, -, restored, -, -⟩ := failed_creation_undone unique rfl run
  have well : ∀ u ∈ undoings t, u.2 = true := by simp [tried]
  exact ⟨refused, took, tried, (restored well).2⟩

end

end KeyCustody.Custodian
