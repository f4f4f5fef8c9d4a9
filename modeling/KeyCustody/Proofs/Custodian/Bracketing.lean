import KeyCustody.Proofs.Custodian.Consistency
import KeyCustody.Proofs.Custodian.Counting

/-!
# How a request uses its ledger

A creation enters what it does in its ledger, and then either completes the ledger or has it cleaned, never
both. A destruction leaves its ledger alone. So no ledger is cleaned once it is completed, and what would come
of that does not matter.
-/

namespace KeyCustody

open Keystore (Creation)
open Program
open Settings (KeystoreKind)

/-- The ledger with compensations entered after its own, the latest first. -/
def Ledger.enterAll {m : Type → Type} (l : Ledger m) (later : List (Compensation m)) : Ledger m :=
  { l with pending := later ++ l.pending }

namespace Keystore

/-- A creation as it goes with another ledger than an empty one. -/
def Creation.onto (l : Ledger Action) (created : Creation Action) : Creation Action :=
  { created with ledger := l.enterAll created.ledger.pending }

variable {tries : Nat} {caller : Caller} {s : Secret} {material : Sealed} {l : Ledger Action}

theorem store_onto : Networked.store Action.registry (Call.barbican Action.make)
      (Call.candidates Action.make tries) caller s material l =
    Creation.onto l <$> Networked.store Action.registry (Call.barbican Action.make)
      (Call.candidates Action.make tries) caller s material .empty := by
  unfold Networked.store
  rw [map_bind]
  refine bind_congr fun x => ?_
  cases x with
  | error _ => rfl
  | ok ref =>
    dsimp only
    rw [map_bind]
    refine bind_congr fun x => ?_
    cases x with
    | error _ | ok _ => rfl

theorem order_onto {key : KeyParameters} : Networked.order Action.registry (Call.barbican Action.make)
      (Call.candidates Action.make tries) caller s key l =
    Creation.onto l <$> Networked.order Action.registry (Call.barbican Action.make)
      (Call.candidates Action.make tries) caller s key .empty := by
  unfold Networked.order
  dsimp only
  rw [map_bind]
  refine bind_congr fun x => ?_
  cases x with
  | error _ => rfl
  | ok ref =>
    dsimp only
    rw [map_bind]
    refine bind_congr fun x => ?_
    cases x with
    | error _ | ok _ => rfl

theorem keep_onto : InMemory.keep Action.registry (Call.vault Action.make) (Call.fresh Action.make)
      (Call.candidates Action.make tries) caller s material l =
    Creation.onto l <$> InMemory.keep Action.registry (Call.vault Action.make) (Call.fresh Action.make)
      (Call.candidates Action.make tries) caller s material .empty := by
  unfold InMemory.keep
  rw [map_bind]
  refine bind_congr fun ref => ?_
  rw [map_bind]
  refine bind_congr fun _ => ?_
  dsimp only
  rw [map_bind]
  refine bind_congr fun x => ?_
  cases x with
  | error _ | ok _ => rfl

/-- A creation only enters compensations, whatever its ledger holds: it neither completes nor cleans it. -/
theorem create_onto {kind : KeystoreKind} : (Action.keystore tries kind).create caller s l =
    Creation.onto l <$> (Action.keystore tries kind).create caller s .empty := by
  cases kind with
  | barbican =>
    change Networked.create .. = Creation.onto l <$> Networked.create ..
    unfold Networked.create
    cases s.material? with
    | some material => exact store_onto
    | none =>
      cases s.keyParameters with
      | error _ => rfl
      | ok key => exact order_onto
  | memory =>
    change InMemory.create .. = Creation.onto l <$> InMemory.create ..
    unfold InMemory.create
    cases s.material? with
    | some material => exact keep_onto
    | none =>
      cases s.keyParameters with
      | error _ => rfl
      | ok key =>
        dsimp only
        rw [map_bind]
        exact bind_congr fun material => keep_onto

end Keystore

namespace Custodian

section
variable {m : Type → Type} [Monad m] (c : Custodian m)

/-- A creation before it completes its ledger or undoes anything. -/
def attempt (caller : Caller) (s : Secret) : m (Except Error Secret × Ledger m) := do
  let created ← c.keystore.create caller s .empty
  match created.result with
  | .error error => return (.error error, created.ledger)
  | .ok id =>
    let s := { created.secret with id := id, creation := some (← c.now) }
    let stored ← (c.catalog.create caller s).run
    return (stored.map (releaseTo · s), created.ledger)

/-- Rolls back with another way to clean a ledger. -/
def rollBackBy (clean : Ledger m → m (Ledger.Outcome × Ledger m)) (operation : String) (ledger : Ledger m) :
    m (Ledger m) := do
  let (outcome, ledger) ← clean ledger
  c.count (.rollback operation)
  if outcome ≠ .undone then c.count (.rollbackFailure operation)
  return ledger

/-- The end of a creation: its ledger is completed, or cleaned once, and the error stays. -/
def close (clean : Ledger m → m (Ledger.Outcome × Ledger m)) :
    Except Error Secret × Ledger m → m (Except Error Secret × Ledger m)
  | (.ok stored, ledger) => return (.ok stored, ledger.complete)
  | (.error error, ledger) => return (.error error, ← c.rollBackBy clean "create" ledger)

end

section
variable {k : Keystore Action} {caller : Caller} {s : Secret}

theorem place_eq (valid : ({ s with name := Text.trim s.name } : Secret).validateNew = .ok ()) :
    (Action.custodian k).place caller s =
      (Action.custodian k).attempt caller { s with name := Text.trim s.name } >>=
        (Action.custodian k).close Ledger.clean := by
  unfold place attempt
  generalize ({ s with name := Text.trim s.name } : Secret) = s at valid ⊢
  simp only [valid]
  rw [bind_assoc]
  refine bind_congr fun created => ?_
  cases created.result with
  | error e => rfl
  | ok id =>
    dsimp only
    rw [bind_assoc]
    refine bind_congr fun now => ?_
    rw [bind_assoc]
    refine bind_congr fun x => ?_
    cases x with
    | error _ | ok _ => rfl

end

section
variable {σ : Type} {w : World σ} {y y' : σ} {t : Trace} {x : Except Error Secret} {ledger : Ledger Action}
  {tries : Nat} {kind : KeystoreKind} {caller : Caller} {s : Secret}

theorem undoes_of_builds {c : Call} (h : builds c = true) : undoes c = false := by
  cases c with
  | postSecret | postOrder | addEntry | getEntry | putMaterial | drawIdentifier | drawReference | drawBytes => rfl
  | _ => cases h

/-- A creation up to its end only goes forward. -/
structure Forward (t : Trace) (ledger : Ledger Action) : Prop where
  calls : ∀ v ∈ t, undoes v.call = false
  incomplete : ledger.completed = false
  undoes : ∀ c ∈ ledger.pending, Undoes c

theorem forward_attempt
    (h : Run w ((Action.custodian (Action.keystore tries kind)).attempt caller s) y t (x, ledger) y') :
    Forward t ledger := by
  obtain ⟨t₁, created, y₁, _, rfl, made, ended⟩ := Run.bind_iff.1 h
  have built := built_create made
  have before : ∀ v ∈ t₁, undoes v.call = false := fun v member => undoes_of_builds (built.calls v member)
  cases result : created.result with
  | error e =>
    simp only [result] at ended
    obtain ⟨rfl, same, -⟩ := Run.pure_iff.1 ended
    obtain ⟨-, rfl⟩ := Prod.mk.inj same
    exact ⟨(List.append_nil t₁).symm ▸ before, built.incomplete, built.undoes⟩
  | ok id =>
    simp only [result] at ended
    obtain ⟨_, now, _, _, rfl, asked, recorded⟩ := Run.bind_iff.1 ended
    obtain ⟨rfl, -⟩ := Run.ask_iff.1 asked
    obtain ⟨_, stored, _, _, rfl, sent, passed⟩ := Run.bind_iff.1 recorded
    obtain ⟨rfl, -⟩ := Run.ask_iff.1 sent
    obtain ⟨rfl, same, -⟩ := Run.pure_iff.1 passed
    obtain ⟨-, rfl⟩ := Prod.mk.inj same
    refine ⟨List.forall_mem_append.2 ⟨before, ?_⟩, built.incomplete, built.undoes⟩
    exact List.forall_mem_cons.2 ⟨rfl, List.forall_mem_singleton.2 rfl⟩

/-- How a creation within the limits ends: it has gone through and its ledger is completed, or it has failed
and its ledger is cleaned, once and after all its other calls. -/
inductive Bracketed (w : World σ) (k : Keystore Action) (caller : Caller) (s : Secret) (y : σ) :
    Trace → Except Error Secret → Ledger Action → σ → Prop
  | completed {t : Trace} {stored : Secret} {ledger : Ledger Action} {y' : σ}
      (made : Run w ((Action.custodian k).attempt caller s) y t (.ok stored, ledger) y')
      (forward : ∀ v ∈ t, undoes v.call = false) :
      Bracketed w k caller s y t (.ok stored) ledger.complete y'
  | cleaned {t₁ t₂ t₃ : Trace} {error : Error} {ledger ledger' : Ledger Action} {outcome : Ledger.Outcome}
      {y₁ y₂ y' : σ} (failed : Run w ((Action.custodian k).attempt caller s) y t₁ (.error error, ledger) y₁)
      (forward : ∀ v ∈ t₁, undoes v.call = false) (incomplete : ledger.completed = false)
      (cleaned : Run w ledger.clean y₁ t₂ (outcome, ledger') y₂) (undoing : ∀ v ∈ t₂, undoes v.call = true)
      (accepted : outcome ≠ .refused) (counted : Path w y₂ t₃ y')
      (once : t₃ = ⟨.count (.rollback "create"), ()⟩ ::
        if outcome = .undone then [] else [⟨.count (.rollbackFailure "create"), ()⟩]) :
      Bracketed w k caller s y (t₁ ++ (t₂ ++ t₃)) (.error error) ledger' y'

theorem bracketed_of_place (valid : ({ s with name := Text.trim s.name } : Secret).validateNew = .ok ())
    (h : Run w ((Action.custodian (Action.keystore tries kind)).place caller s) y t (x, ledger) y') :
    Bracketed w (Action.keystore tries kind) caller { s with name := Text.trim s.name } y t x ledger y' := by
  rw [place_eq valid] at h
  obtain ⟨t₁, ⟨x₁, ledger₁⟩, y₁, t₂, rfl, made, closed⟩ := Run.bind_iff.1 h
  have forward := forward_attempt made
  cases x₁ with
  | ok stored =>
    obtain ⟨rfl, same, rfl⟩ := Run.pure_iff.1 closed
    obtain ⟨rfl, rfl⟩ := Prod.mk.inj same
    rw [List.append_nil]
    exact .completed made forward.calls
  | error error =>
    obtain ⟨_, ledger', _, _, rfl, undone, passed⟩ := Run.bind_iff.1 closed
    obtain ⟨rfl, same, rfl⟩ := Run.pure_iff.1 passed
    obtain ⟨rfl, rfl⟩ := Prod.mk.inj same
    obtain ⟨t₃, outcome, y₂, t₄, rfl, cleaned, counted, once⟩ := run_rollBack_cleaned undone
    obtain ⟨rest, ran⟩ := run_clean_undoAll forward.incomplete cleaned
    rw [List.append_nil]
    exact .cleaned made forward.calls forward.incomplete cleaned (run_undoes forward.undoes ran).1
      (accepted_of_undoAll ran) counted once

/-- With any way to clean a ledger that is right about those that are not completed, a creation is the same. -/
theorem place_close (valid : ({ s with name := Text.trim s.name } : Secret).validateNew = .ok ())
    (clean : Ledger Action → Action (Ledger.Outcome × Ledger Action))
    (same : ∀ l, l.completed = false → clean l = l.clean) :
    (Action.custodian (Action.keystore tries kind)).place caller s =
      (Action.custodian (Action.keystore tries kind)).attempt caller { s with name := Text.trim s.name } >>=
        (Action.custodian (Action.keystore tries kind)).close clean := by
  rw [place_eq valid]
  refine bind_congr_of_runs fun t (x, ledger) made => ?_
  cases x with
  | ok _ => rfl
  | error _ =>
    have agrees := same ledger (forward_attempt made).incomplete
    simp only [close, rollBackBy, agrees]

theorem delete_onto {id : String} {l : Ledger Action} : (Action.keystore tries kind).delete caller id l =
    (fun r => (r.1, l)) <$> (Action.keystore tries kind).delete caller id .empty := by
  cases kind with
  | barbican | memory =>
    change Keystore.withoutCompensation .. = _ <$> Keystore.withoutCompensation ..
    unfold Keystore.withoutCompensation
    rw [map_bind]
    rfl

/-- A destruction passes its ledger through. -/
theorem remove_onto {id : String} {whole : Bool} {l : Ledger Action} :
    (Action.custodian (Action.keystore tries kind)).remove caller id whole l =
      (fun r => (r.1, l)) <$> (Action.custodian (Action.keystore tries kind)).remove caller id whole .empty := by
  unfold remove
  rw [map_bind]
  refine bind_congr fun x => ?_
  cases x with
  | error _ => rfl
  | ok observed =>
    dsimp only
    have passed : (Action.custodian (Action.keystore tries kind)).keystore.delete caller id l =
        (fun r => (r.1, l)) <$> (Action.custodian (Action.keystore tries kind)).keystore.delete caller id .empty :=
      delete_onto
    rw [passed, map_bind, bind_map_left]
    refine bind_congr fun (result, _) => ?_
    cases result with
    | error _ => rfl
    | ok _ =>
      dsimp only
      rw [map_bind]
      rfl

end

/-- What a custodian over a keystore does with the ledgers of its requests. -/
structure Brackets (k : Keystore Action) : Prop where
  /-- The keystore only enters compensations, whatever the ledger holds. -/
  entered (caller : Caller) (s : Secret) (l : Ledger Action) :
    k.create caller s l = Creation.onto l <$> k.create caller s .empty
  invalid (caller : Caller) (s : Secret) (error : Error)
    (violated : ({ s with name := Text.trim s.name } : Secret).validateNew = .error error) :
    (Action.custodian k).place caller s = pure (.error error, .empty)
  /-- What would come of cleaning a completed ledger does not matter. -/
  closed (caller : Caller) (s : Secret)
    (valid : ({ s with name := Text.trim s.name } : Secret).validateNew = .ok ())
    (clean : Ledger Action → Action (Ledger.Outcome × Ledger Action))
    (same : ∀ l, l.completed = false → clean l = l.clean) :
    (Action.custodian k).place caller s =
      (Action.custodian k).attempt caller { s with name := Text.trim s.name } >>= (Action.custodian k).close clean
  ended (σ : Type) (w : World σ) (caller : Caller) (s : Secret)
    (valid : ({ s with name := Text.trim s.name } : Secret).validateNew = .ok ())
    (y : σ) (t : Trace) (r : Except Error Secret × Ledger Action) (y' : σ)
    (placed : Run w ((Action.custodian k).place caller s) y t r y') :
    Bracketed w k caller { s with name := Text.trim s.name } y t r.1 r.2 y'
  passed (caller : Caller) (id : String) (whole : Bool) (l : Ledger Action) :
    (Action.custodian k).remove caller id whole l =
      (fun r => (r.1, l)) <$> (Action.custodian k).remove caller id whole .empty

end Custodian

end KeyCustody
