import KeyCustody.Proofs.Run

/-!
# What keystores leave alone

Keystores call the registry, the API and the vault, and never the catalog. So do the compensations
that they enter.
-/

namespace KeyCustody

def Call.isOnCatalog : Call → Bool
  | createRecord .. | getRecord .. | changeRecord .. | deleteRecord .. => true
  | listRecords .. | totalRecords .. => true
  | _ => false

/-- A call that only looks into a registry or a vault. -/
def Call.looks : Call → Bool
  | getEntry .. | findMaterial _ => true
  | _ => false

theorem Call.isOnCatalog_of_looks {c : Call} (looks : c.looks = true) : c.isOnCatalog = false := by
  cases c with
  | getEntry | findMaterial => rfl
  | _ => cases looks

namespace Action

variable {α β : Type}

/-- No call on the catalog is made, whatever the calls are answered. -/
def LeavesCatalog (p : Action α) : Prop := p.Keeps (·.isOnCatalog = false) fun _ => True

namespace LeavesCatalog

theorem pure (a : α) : LeavesCatalog (Pure.pure a) := trivial

theorem make {c : Call} (h : c.isOnCatalog = false) : LeavesCatalog (Action.make c) :=
  ⟨h, fun _ => trivial⟩

theorem bind {p : Action α} {f : α → Action β} (first : LeavesCatalog p)
    (rest : ∀ a, LeavesCatalog (f a)) : LeavesCatalog (p >>= f) :=
  Program.Keeps.bind first fun a _ => rest a

theorem throw (e : Error) : LeavesCatalog (MonadExcept.throw e : ExceptT Error Action α).run :=
  trivial

theorem bindExcept {x : ExceptT Error Action α} {f : α → ExceptT Error Action β}
    (first : LeavesCatalog x.run) (rest : ∀ a, LeavesCatalog (f a).run) :
    LeavesCatalog (x >>= f).run :=
  first.bind fun r => by
    cases r with
    | ok a => exact rest a
    | error e => exact trivial

end LeavesCatalog

end Action

open KeyCustody.Action (LeavesCatalog)
open Registry (Entry)

/-! ## Registries -/

namespace Registry

variable {tries left : Nat} {tenant : Tenant} {e : Entry}

/-- An allocation draws candidates, looks them up, and adds its entry under one of them. -/
theorem keeps_allocateWithin {calls : Call → Prop} (draws : calls .drawIdentifier)
    (looks : ∀ id, calls (.getEntry tenant id))
    (adds : ∀ id, calls (.addEntry tenant { e with issuedId := id })) :
    (allocateWithin tries Action.registry (Call.candidates Action.make tries).draw tenant e left).run.Keeps
      calls fun _ => True := by
  have asks : ∀ c : Call, calls c → (Action.make c).Keeps calls fun _ => True :=
    fun _ kind => ⟨kind, fun _ => trivial⟩
  induction left with
  | zero => exact trivial
  | succ left ih =>
    unfold allocateWithin
    refine (asks .drawIdentifier draws).bind fun id _ => ?_
    refine (asks (.getEntry tenant id) (looks id)).bind fun x _ => ?_
    cases x with
    | ok _ => exact ih
    | error error =>
      by_cases free : error.isNotFound = true
      · simp only [free, if_true]
        exact ⟨adds id, fun _ => trivial⟩
      · simp only [free, Bool.false_eq_true, if_false]
        exact trivial

theorem allocateWithin_leavesCatalog :
    LeavesCatalog (allocateWithin tries Action.registry (Call.candidates Action.make tries).draw tenant e
      left).run :=
  keeps_allocateWithin rfl (fun _ => rfl) fun _ => rfl

end Registry

/-! ## Retries -/

namespace Keystore.Networked

variable {α : Type} {tries left : Nat} {caller : Caller} {id : String}

theorem keeps_attemptsLeft {calls : Call → Prop} {exhausted : Action Unit} {operation : String}
    {attempt : ExceptT Error Action α} {last : Option Error} (counts : exhausted.Keeps calls fun _ => True)
    (h : attempt.run.Keeps calls fun _ => True) :
    (Retry.attemptsLeft exhausted operation attempt left last).run.Keeps calls fun _ => True := by
  induction left generalizing last with
  | zero => exact counts.bind fun _ _ => trivial
  | succ left ih =>
    unfold Retry.attemptsLeft
    refine h.bind fun x _ => ?_
    cases x with
    | ok _ => exact trivial
    | error error =>
      by_cases again : error.isRetryable = true
      · simp only [again, if_true]
        exact ih
      · simp only [again, Bool.false_eq_true, if_false]
        exact trivial

/-- Retries make the calls that they repeat, and may count. -/
theorem keeps_retry {calls : Call → Prop} {operation : String} {attempt : ExceptT Error Action α}
    (counts : ∀ c, calls (.count c)) (h : attempt.run.Keeps calls fun _ => True) :
    (retry Action.count operation attempt).run.Keeps calls fun _ => True :=
  keeps_attemptsLeft ⟨counts _, fun _ => trivial⟩ h

theorem retry_leavesCatalog {operation : String} {attempt : ExceptT Error Action α}
    (h : LeavesCatalog attempt.run) : LeavesCatalog (retry Action.count operation attempt).run :=
  keeps_retry (fun _ => rfl) h

/-! ## The keystore over Barbican -/

theorem keeps_promote {calls : Call → Prop} {e : Entry} {ref : String} (counts : ∀ c, calls (.count c))
    (promotes : calls (.updateEntry caller.tenant e)) (drops : calls (.deleteOrder caller ref)) :
    (promote Action.registry (Call.barbican Action.make) Action.count caller e ref).Keeps calls
      fun _ => True := by
  have updated : (retry Action.count "promote_order" (Action.registry.update caller.tenant e)).run.Keeps
      calls fun _ => True :=
    keeps_retry counts ⟨promotes, fun _ => trivial⟩
  refine updated.bind fun x _ => ?_
  cases x with
  | ok _ => exact trivial
  | error _ =>
    refine ⟨drops, fun x => ?_⟩
    cases x with
    | ok _ => exact trivial
    | error _ => exact ⟨counts _, fun _ => trivial⟩

/-- Resolving an entry polls its order, brings the entry up to date or deletes the order, and counts. -/
theorem keeps_resolve {calls : Call → Prop} {e : Entry} (counts : ∀ c, calls (.count c))
    (polls : ∀ ref, calls (.checkOrder caller ref)) (promotes : ∀ e, calls (.updateEntry caller.tenant e))
    (drops : ∀ ref, calls (.deleteOrder caller ref)) :
    (resolve Action.registry (Call.barbican Action.make) Action.count caller e).run.Keeps calls
      fun _ => True := by
  unfold resolve
  cases e.pending? with
  | none => exact trivial
  | some ref =>
    refine .bindExcept (keeps_retry counts ⟨polls ref, fun _ => trivial⟩) fun status => ?_
    cases status with
    | pending | failed _ => exact trivial
    | active secretRef =>
      have promoted : (ExceptT.lift (promote Action.registry (Call.barbican Action.make) Action.count caller
          { e with secretRef := some secretRef } ref) : ExceptT Error Action Unit).run.Keeps calls
            fun _ => True :=
        (keeps_promote counts (promotes _) (drops ref)).bind fun _ _ => trivial
      exact .bindExcept promoted fun _ => trivial

theorem keeps_look {calls : Call → Prop} (counts : ∀ c, calls (.count c))
    (looks : calls (.getEntry caller.tenant id)) (polls : ∀ ref, calls (.checkOrder caller ref))
    (promotes : ∀ e, calls (.updateEntry caller.tenant e)) (drops : ∀ ref, calls (.deleteOrder caller ref)) :
    (look Action.registry (Call.barbican Action.make) Action.count caller id).run.Keeps calls
      fun _ => True :=
  .bindExcept (keeps_retry counts ⟨looks, fun _ => trivial⟩)
    fun _ => keeps_resolve counts polls promotes drops

theorem look_leavesCatalog :
    LeavesCatalog (look Action.registry (Call.barbican Action.make) Action.count caller id).run :=
  keeps_look (fun _ => rfl) rfl (fun _ => rfl) (fun _ => rfl) fun _ => rfl

theorem keeps_fetch {calls : Call → Prop} {e : Entry} (counts : ∀ c, calls (.count c))
    (fetches : ∀ ref type, calls (.getPayload caller ref type)) :
    (fetch (Call.barbican Action.make) Action.count caller e).run.Keeps calls fun _ => True := by
  unfold fetch
  cases e.secret? with
  | none => exact trivial
  | some ref =>
    exact .bindExcept (keeps_retry counts ⟨fetches _ _, fun _ => trivial⟩) fun _ => trivial

theorem payload_leavesCatalog : LeavesCatalog ((Action.barbicanKeystore tries).payload caller id).run := by
  refine .bindExcept look_leavesCatalog fun found => ?_
  cases found with
  | ready e => exact keeps_fetch (fun _ => rfl) fun _ _ => rfl
  | pending => exact .pure _
  | failed => exact .pure _

theorem keeps_check {calls : Call → Prop} (counts : ∀ c, calls (.count c))
    (looks : calls (.getEntry caller.tenant id)) (polls : ∀ ref, calls (.checkOrder caller ref))
    (promotes : ∀ e, calls (.updateEntry caller.tenant e)) (drops : ∀ ref, calls (.deleteOrder caller ref)) :
    ((Action.barbicanKeystore tries).check caller id).run.Keeps calls fun _ => True := by
  refine .bindExcept (keeps_look counts looks polls promotes drops) fun found => ?_
  cases found with
  | ready _ | pending | failed => exact trivial

theorem check_leavesCatalog : LeavesCatalog ((Action.barbicanKeystore tries).check caller id).run :=
  keeps_check (fun _ => rfl) rfl (fun _ => rfl) (fun _ => rfl) fun _ => rfl

theorem settled_leavesCatalog {e : Entry} :
    LeavesCatalog (settled (Call.barbican Action.make) caller e).run := by
  unfold settled
  cases e.pending? with
  | none => exact .pure _
  | some ref =>
    refine .bindExcept (.make rfl) fun status => ?_
    cases status with
    | active _ => exact .pure _
    | pending | failed _ => exact .throw _

theorem forgetOrder_leavesCatalog {e : Entry} :
    LeavesCatalog (forgetOrder (Call.barbican Action.make) Action.count caller e) := by
  unfold forgetOrder
  cases e.order? with
  | none => exact .pure _
  | some ref =>
    refine .bind (retry_leavesCatalog (.make rfl)) fun x => ?_
    cases x with
    | ok _ => exact .pure _
    | error _ => exact .make rfl

theorem delete_leavesCatalog {ledger : Ledger Action} :
    LeavesCatalog ((Action.barbicanKeystore tries).delete caller id ledger) := by
  refine .bind (p := (delete Action.registry (Call.barbican Action.make) Action.count caller id).run)
    ?_ fun _ => .pure _
  unfold delete
  refine .bindExcept (.make rfl) fun e => .bindExcept settled_leavesCatalog fun e => ?_
  have given : LeavesCatalog (do
      Action.registry.delete caller.tenant id
      ExceptT.lift (forgetOrder (Call.barbican Action.make) Action.count caller e) :
      ExceptT Error Action Unit).run :=
    .bindExcept (.make rfl) fun _ => .bind forgetOrder_leavesCatalog fun _ => .pure _
  cases e.secret? with
  | none => exact given
  | some ref => exact .bindExcept (.make rfl) fun _ => given

end Keystore.Networked

/-! ## Creations -/

namespace Keystore

/-- A creation of a secret may be undone without the catalog, and does not decide whether it is
deleted. An identifier is issued only for material that is in use or still to come. -/
structure Creation.Fits (s : Secret) (c : Creation Action) : Prop where
  undo : ∀ compensation ∈ c.ledger.pending, LeavesCatalog compensation.undo.run
  deleted : c.secret.deleted = s.deleted
  entered : ∀ id, c.result = .ok id →
    c.secret.phase = .activation ∧ c.secret.reason = some .keyActive ∨
      c.secret.phase = .preactivation ∧ c.secret.reason = none

/-- A program of a keystore that ends with a creation of a secret. -/
def Creates (s : Secret) (p : Action (Creation Action)) : Prop :=
  p.Keeps (·.isOnCatalog = false) (Creation.Fits s)

variable {tries : Nat} {caller : Caller} {s s' : Secret}

theorem Creates.of_deleted {p : Action (Creation Action)} (h : Creates s' p)
    (same : s'.deleted = s.deleted) : Creates s p :=
  h.mono fun _ fits => ⟨fits.undo, fits.deleted.trans same, fits.entered⟩

theorem Creates.bind {α : Type} {p : Action α} {f : α → Action (Creation Action)}
    (first : LeavesCatalog p) (rest : ∀ a, Creates s (f a)) : Creates s (p >>= f) :=
  Program.Keeps.bind first fun a _ => rest a

theorem creates_refused {error : Error} {ledger : Ledger Action}
    (undo : ∀ compensation ∈ ledger.pending, LeavesCatalog compensation.undo.run)
    (same : s'.deleted = s.deleted) :
    Creates s (pure ⟨.error error, s', ledger⟩) :=
  ⟨undo, same, fun _ issued => by cases issued⟩

theorem undo_enter {ledger : Ledger Action} {c : Compensation Action}
    (undo : ∀ c ∈ ledger.pending, LeavesCatalog c.undo.run) (added : LeavesCatalog c.undo.run) :
    ∀ d ∈ (ledger.enter c).pending, LeavesCatalog d.undo.run :=
  List.forall_mem_cons.2 ⟨added, undo⟩

theorem undo_empty : ∀ c ∈ (Ledger.empty : Ledger Action).pending, LeavesCatalog c.undo.run := by
  intro c member
  cases member

theorem creates_networked :
    Creates s ((Action.barbicanKeystore tries).create caller s .empty) := by
  change Creates s (Networked.create Action.registry (Call.barbican Action.make)
    (Call.candidates Action.make tries) caller s .empty)
  unfold Networked.create
  cases s.material? with
  | some material =>
    refine .bind (.make rfl) fun x => ?_
    cases x with
    | error _ => exact creates_refused undo_empty rfl
    | ok ref =>
      have posted := undo_enter (c := ⟨"delete backend secret",
        (Call.barbican Action.make).deleteSecret caller ref⟩) undo_empty (.make rfl)
      refine .bind Registry.allocateWithin_leavesCatalog fun x => ?_
      cases x with
      | error _ => exact creates_refused posted rfl
      | ok id => exact ⟨undo_enter posted (.make rfl), rfl, fun _ _ => .inl ⟨rfl, rfl⟩⟩
  | none =>
    cases s.keyParameters with
    | error _ => exact creates_refused undo_empty rfl
    | ok key =>
      refine .bind (.make rfl) fun x => ?_
      cases x with
      | error _ => exact creates_refused undo_empty rfl
      | ok ref =>
        refine .bind Registry.allocateWithin_leavesCatalog fun x => ?_
        cases x with
        | error _ => exact creates_refused undo_empty rfl
        | ok id => exact ⟨undo_empty, rfl, fun _ _ => .inr ⟨rfl, rfl⟩⟩

theorem creates_keep {material : Sealed} :
    Creates s (InMemory.keep Action.registry (Call.vault Action.make) (Call.fresh Action.make)
      (Call.candidates Action.make tries) caller s material .empty) := by
  unfold InMemory.keep
  refine .bind (.make rfl) fun ref => .bind (.make rfl) fun _ => ?_
  have kept := undo_enter (c := ⟨"delete memory material",
    ExceptT.lift ((Call.vault Action.make).drop ref)⟩) undo_empty (.bind (.make rfl) fun _ => .pure _)
  refine .bind Registry.allocateWithin_leavesCatalog fun x => ?_
  cases x with
  | error _ => exact creates_refused kept rfl
  | ok id => exact ⟨undo_enter kept (.make rfl), rfl, fun _ _ => .inl ⟨rfl, rfl⟩⟩

theorem creates_inMemory : Creates s ((Action.memoryKeystore tries).create caller s .empty) := by
  change Creates s (InMemory.create Action.registry (Call.vault Action.make) (Call.fresh Action.make)
    (Call.candidates Action.make tries) caller s .empty)
  unfold InMemory.create
  cases s.material? with
  | some material => exact creates_keep
  | none =>
    cases s.keyParameters with
    | error _ => exact creates_refused undo_empty rfl
    | ok key =>
      have generated : LeavesCatalog (InMemory.generate (Call.fresh Action.make) key.bitLength) :=
        .bind (.make rfl) fun _ => .pure _
      exact .bind generated fun _ => creates_keep.of_deleted rfl

/-! ## Keystores -/

/-- A keystore that does all its work without the catalog. -/
structure Apart (k : Keystore Action) : Prop where
  create : ∀ caller s, Creates s (k.create caller s .empty)
  delete : ∀ caller id ledger, LeavesCatalog (k.delete caller id ledger)
  payload : ∀ caller id, LeavesCatalog (k.payload caller id).run
  check : ∀ caller id, LeavesCatalog (k.check caller id).run

theorem apart_barbicanKeystore (tries : Nat) : Apart (Action.barbicanKeystore tries) where
  create _ _ := creates_networked
  delete _ _ _ := Networked.delete_leavesCatalog
  payload _ _ := Networked.payload_leavesCatalog
  check _ _ := Networked.check_leavesCatalog

namespace InMemory

variable {id : String}

theorem keeps_reference {calls : Call → Prop} (looks : calls (.getEntry caller.tenant id)) :
    (reference Action.registry caller id).run.Keeps calls fun _ => True := by
  refine .bindExcept ⟨looks, fun _ => trivial⟩ fun e => ?_
  cases e.secret? with
  | none => exact trivial
  | some _ => exact trivial

theorem reference_looks : (reference Action.registry caller id).run.Keeps (·.looks = true) fun _ => True :=
  keeps_reference rfl

/-- What is fetched is in use. -/
theorem payload_inUse : ((Action.memoryKeystore tries).payload caller id).run.Keeps (·.looks = true)
    fun x => ∀ o, x = .ok o → o.phase = .activation := by
  refine reference_looks.bind fun x _ => ?_
  cases x with
  | error _ => exact fun _ same => by cases same
  | ok ref =>
    refine ⟨rfl, fun found => ?_⟩
    cases found with
    | none => exact fun _ same => by cases same
    | some material =>
      rintro _ ⟨⟩
      rfl

theorem payload_looks :
    ((Action.memoryKeystore tries).payload caller id).run.Keeps (·.looks = true) fun _ => True :=
  payload_inUse.mono fun _ _ => trivial

theorem check_looks :
    ((Action.memoryKeystore tries).check caller id).run.Keeps (·.looks = true) fun _ => True := by
  refine .bindExcept reference_looks fun ref => .bindExcept ⟨rfl, fun _ => trivial⟩ fun found => ?_
  cases found with
  | some _ => exact trivial
  | none => exact trivial

end InMemory

theorem apart_memoryKeystore (tries : Nat) : Apart (Action.memoryKeystore tries) where
  create _ _ := creates_inMemory
  delete caller id _ := by
    refine .bind (p := (InMemory.delete Action.registry (Call.vault Action.make) caller id).run) ?_
      fun _ => .pure _
    refine .bindExcept (InMemory.reference_looks.widen fun _ => Call.isOnCatalog_of_looks) fun ref => ?_
    exact .bindExcept (.bind (.make rfl) fun _ => .pure _) fun _ => .make rfl
  payload _ _ := InMemory.payload_looks.widen fun _ => Call.isOnCatalog_of_looks
  check _ _ := InMemory.check_looks.widen fun _ => Call.isOnCatalog_of_looks

theorem apart_of_either {k : Keystore Action}
    (either : k = Action.memoryKeystore tries ∨ k = Action.barbicanKeystore tries) : Apart k := by
  obtain rfl | rfl := either
  · exact apart_memoryKeystore tries
  · exact apart_barbicanKeystore tries

end Keystore

end KeyCustody
