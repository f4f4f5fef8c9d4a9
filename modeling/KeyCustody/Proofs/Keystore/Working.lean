import KeyCustody.Proofs.Engine
import KeyCustody.Proofs.Registry.Lookup
import KeyCustody.Proofs.Retry

/-!
# Keystores at work

What either keystore does on an engine that nothing fails in. Given material, it keeps it under the next
reference and adds an entry for it under the first free identifier; both can be undone. Reading changes
nothing, and deleting takes the material back with its entry.
-/

namespace KeyCustody

open Keystore (Creation Observation inUse)
open Registry (Entry Store noneFree allocateWithin)
open Program

/-! ## The search for a free identifier -/

/-- How the search ends with `left` tries left after `n` draws, and how many draws were made by then. -/
def Registry.Store.search (draw : Nat → String) (tries : Nat) (tenant : Tenant) (s : Store) :
    Nat → Nat → Except Error String × Nat
  | 0, n => (.error (noneFree tries), n)
  | left + 1, n =>
    match s.get tenant (draw n) with
    | .ok _ => s.search draw tries tenant left (n + 1)
    | .error error => if error.isNotFound then (.ok (draw n), n + 1) else (.error error, n + 1)

namespace Registry.Store

variable {s s' : Store} {tenant tenant' : Tenant} {id id' : String} {e x : Entry}

/-- The search depends on which identifiers are found. -/
theorem search_congr {draw : Nat → String} {tries : Nat} (left n : Nat)
    (looks : ∀ id, (s.get tenant id).map (fun _ => ()) = (s'.get tenant id).map fun _ => ()) :
    s.search draw tries tenant left n = s'.search draw tries tenant left n := by
  induction left generalizing n with
  | zero => rfl
  | succ left ih =>
    have looked := looks (draw n)
    unfold search
    cases found : s.get tenant (draw n) with
    | ok _ =>
      cases found' : s'.get tenant (draw n) with
      | ok _ => exact ih (n + 1)
      | error _ => rw [found, found'] at looked; cases looked
    | error _ =>
      cases found' : s'.get tenant (draw n) with
      | ok _ => rw [found, found'] at looked; cases looked
      | error _ =>
        rw [found, found'] at looked
        obtain rfl := Except.error.inj looked
        rfl

/-- What is found after a deletion was found before, under another identifier. -/
theorem get_of_delete (h : (s.delete tenant id).2.get tenant' id' = .ok x) :
    s.get tenant' id' = .ok x ∧ (tenant', id') ≠ (tenant, id) := by
  have different : (tenant', id') ≠ (tenant, id) := by
    intro same
    obtain ⟨rfl, rfl⟩ := Prod.mk.inj same
    obtain ⟨isOpen, stands, -⟩ := live?_of_get h
    rw [live?_delete_self (isClosed_delete.symm.trans isOpen)] at stands
    cases stands
  exact ⟨(get_delete_other different).symm.trans h, different⟩

/-- What is found after an addition is the entry that was added, or was found before. -/
theorem get_of_add (added : s.add tenant e = (.ok (), s')) (h : s'.get tenant' id' = .ok x) :
    (tenant', id') = (tenant, e.issuedId) ∧ x.cleared = e.cleared ∨
      (tenant', id') ≠ (tenant, e.issuedId) ∧ s.get tenant' id' = .ok x := by
  by_cases same : (tenant', id') = (tenant, e.issuedId)
  · obtain ⟨rfl, rfl⟩ := Prod.mk.inj same
    obtain ⟨e', stands, kept⟩ := live?_add_self added
    obtain rfl := Option.some.inj ((live?_of_get h).2.1.symm.trans stands)
    exact .inl ⟨rfl, kept⟩
  · have closed := (isClosed_add added).1.trans (isClosed_add added).2.symm
    exact .inr ⟨same, (get_congr closed (live?_add_other added same).symm).trans h⟩

end Registry.Store

namespace Backing

/-- The reference under an identifier; an entry without one counts as missing. -/
def reference (tenant : Tenant) (id : String) (b : Backing) : Except Error String :=
  (b.store.get tenant id).bind fun x =>
    match x.secret? with
    | some ref => .ok ref
    | none => .error (.noSecret id)

/-- Adds an entry under a free identifier. -/
def issue (u : Supply) (tries : Nat) (tenant : Tenant) (x : Entry) (left : Nat) (b : Backing) :
    Except Error String × Backing :=
  match b.store.search u.identifier tries tenant left b.issued with
  | (.error error, n) => (.error error, { b with issued := n })
  | (.ok id, n) =>
    ((b.store.add tenant { x with issuedId := id }).1.map fun () => id,
      { b with store := (b.store.add tenant { x with issuedId := id }).2, issued := n })

/-- Keeps material under the next reference. -/
def keep (u : Supply) (m : Sealed) (b : Backing) : Backing :=
  { b with material := b.material.put (u.reference b.referred) m, referred := b.referred + 1 }

/-- Keeps material under the next reference, and adds an entry for it. -/
def deposit (u : Supply) (tries : Nat) (tenant : Tenant) (m : Sealed) (b : Backing) :
    Except Error String × Backing :=
  (b.keep u m).issue u tries tenant (.ofSecret (u.reference b.referred)) tries

/-- Takes material back, and the entry for it if one was added. -/
def withdraw (tenant : Tenant) (ref : String) (issued : Option String) (b : Backing) : Backing :=
  { b with
    material := b.material.drop ref
    store := match issued with
      | some id => (b.store.delete tenant id).2
      | none => b.store }

variable {b : Backing} {tenant tenant' : Tenant} {id id' ref ref' : String}

theorem reference_ok_iff :
    b.reference tenant id = .ok ref ↔ ∃ x, b.store.get tenant id = .ok x ∧ x.secret? = some ref := by
  unfold reference
  cases b.store.get tenant id with
  | error _ => simp [Except.bind]
  | ok x => cases named : x.secret? <;> simp [Except.bind, named]

/-- What is named after material was taken back was named before. -/
theorem reference_of_withdraw {issued : Option String}
    (h : (b.withdraw tenant ref issued).reference tenant' id' = .ok ref') :
    b.reference tenant' id' = .ok ref' ∧ ∀ id, issued = some id → (tenant', id') ≠ (tenant, id) := by
  obtain ⟨x, stands, named⟩ := reference_ok_iff.1 h
  cases issued with
  | none => exact ⟨reference_ok_iff.2 ⟨x, stands, named⟩, nofun⟩
  | some id =>
    obtain ⟨before, different⟩ := Store.get_of_delete stands
    refine ⟨reference_ok_iff.2 ⟨x, before, named⟩, ?_⟩
    rintro _ ⟨⟩
    exact different

/-- What is named after an entry for a secret was added is its reference, or was named before. -/
theorem reference_of_add {c : Backing}
    (added : b.store.add tenant { Entry.ofSecret ref with issuedId := id } = (.ok (), c.store))
    (h : c.reference tenant' id' = .ok ref') :
    (tenant', id') = (tenant, id) ∧ ref' = ref ∨
      (tenant', id') ≠ (tenant, id) ∧ b.reference tenant' id' = .ok ref' := by
  obtain ⟨x, stands, named⟩ := reference_ok_iff.1 h
  obtain ⟨self, kept⟩ | ⟨different, before⟩ := Store.get_of_add added stands
  · have shown : Entry.present (some ref) = some ref' := (Entry.secret?_congr kept).symm.trans named
    exact .inl ⟨self, (Option.some.inj (Option.filter_eq_some_iff.1 shown).1).symm⟩
  · exact .inr ⟨different, reference_ok_iff.2 ⟨x, before, named⟩⟩

/-- No entry names a reference that is still to be drawn. -/
def Unused (u : Supply) (b : Backing) : Prop :=
  ∀ tenant id n, b.referred ≤ n → b.reference tenant id ≠ .ok (u.reference n)

/-- After material was kept under the next reference, what named it then names it now, or is the entry
of the new material. -/
theorem Unused.after {u : Supply} {c : Backing} (unused : b.Unused u) (distinct : Function.Injective u.reference)
    (drawn : c.referred = b.referred + 1)
    (named : ∀ tenant id r, c.reference tenant id = .ok r →
      r = u.reference b.referred ∨ b.reference tenant id = .ok r) : c.Unused u := by
  intro tenant id n later names
  rw [drawn] at later
  obtain same | before := named _ _ _ names
  · have drawnBefore : n = b.referred := distinct same
    omega
  · exact unused tenant id n (by omega) before

theorem drop_put (v : Vault.Contents) (ref : String) (m : Sealed) : (v.put ref m).drop ref = v.drop ref :=
  Keyed.erase_put

end Backing

section
variable {u : Supply} {e : Engine} {tries : Nat} {tenant : Tenant} {x : Entry}

theorem eval_issue (left : Nat) :
    (allocateWithin tries Action.registry (Call.candidates Action.make tries).draw tenant x left).run.run
      u.answer e = ((e.issue u tries tenant x left).1,
        { e with toBacking := (e.issue u tries tenant x left).2 }) := by
  induction left generalizing e with
  | zero => rfl
  | succ left ih =>
    have searched : (allocateWithin tries Action.registry (Call.candidates Action.make tries).draw tenant x
        (left + 1)).run.run u.answer e =
      (match e.store.get tenant (u.identifier e.issued) with
        | .ok _ => (allocateWithin tries Action.registry (Call.candidates Action.make tries).draw tenant x
            left).run
        | .error error =>
          if error.isNotFound then do
            return (← (Action.registry.add tenant { x with issuedId := u.identifier e.issued }).run).map
              fun () => u.identifier e.issued
          else return .error error : Action (Except Error String)).run u.answer
        { e with issued := e.issued + 1 } := rfl
    rw [searched]
    unfold Backing.issue Store.search
    cases e.store.get tenant (u.identifier e.issued) with
    | ok _ => exact ih
    | error error =>
      by_cases missing : error.isNotFound = true
      · simp only [if_pos missing]
        rfl
      · simp only [if_neg missing]
        rfl

/-- An allocation ends with an identifier if the entry was added under it, and else leaves the store
alone. -/
theorem issue_cases (u : Supply) (tries : Nat) (tenant : Tenant) (x : Entry) (left : Nat) (b : Backing) :
    (∃ error n, b.issue u tries tenant x left = (.error error, { b with issued := n })) ∨
      ∃ id s n, b.issue u tries tenant x left = (.ok id, { b with store := s, issued := n }) ∧
        b.store.add tenant { x with issuedId := id } = (.ok (), s) := by
  unfold Backing.issue
  generalize b.store.search u.identifier tries tenant left b.issued = found
  obtain ⟨error | id, n⟩ := found
  · exact .inl ⟨error, n, rfl⟩
  · dsimp only
    cases added : (b.store.add tenant { x with issuedId := id }).1 with
    | error error =>
      rw [Store.add_error added]
      exact .inl ⟨error, n, rfl⟩
    | ok _ => exact .inr ⟨id, _, n, rfl, Prod.ext added rfl⟩

/-- A deposit ends with an identifier if an entry for the material was added under it; the material is
kept in any case. -/
theorem deposit_cases (u : Supply) (tries : Nat) (tenant : Tenant) (m : Sealed) (b : Backing) :
    (∃ error n, b.deposit u tries tenant m = (.error error, { b.keep u m with issued := n })) ∨
      ∃ id s n, b.deposit u tries tenant m = (.ok id, { b.keep u m with store := s, issued := n }) ∧
        b.store.add tenant { Entry.ofSecret (u.reference b.referred) with issuedId := id } = (.ok (), s) :=
  issue_cases u tries tenant (.ofSecret (u.reference b.referred)) tries (b.keep u m)

/-- The same identifier is issued where the same are found and the entries can be added alike. -/
theorem issue_congr {u u' : Supply} {b b' : Backing} {x' : Entry} (left : Nat)
    (drawn : u.identifier = u'.identifier) (issued : b.issued = b'.issued)
    (looks : ∀ id,
      (b.store.get tenant id).map (fun _ => ()) = (b'.store.get tenant id).map fun _ => ())
    (adds : ∀ id, (b.store.add tenant { x with issuedId := id }).1 =
      (b'.store.add tenant { x' with issuedId := id }).1) :
    (b.issue u tries tenant x left).1 = (b'.issue u' tries tenant x' left).1 ∧
      (b.issue u tries tenant x left).2.issued = (b'.issue u' tries tenant x' left).2.issued := by
  unfold Backing.issue
  rw [Store.search_congr left b.issued looks, drawn, issued]
  generalize b'.store.search u'.identifier tries tenant left b'.issued = found
  obtain ⟨error | id, n⟩ := found
  · exact ⟨rfl, rfl⟩
  · exact ⟨congrArg (Except.map fun () => id) (adds id), rfl⟩

/-- What the vault holds does not decide which identifier is issued. -/
theorem issue_material (u : Supply) (tries : Nat) (tenant : Tenant) (x : Entry) (left : Nat) (b : Backing)
    (v : Vault.Contents) :
    ({ b with material := v } : Backing).issue u tries tenant x left =
      ((b.issue u tries tenant x left).1, { (b.issue u tries tenant x left).2 with material := v }) := by
  unfold Backing.issue
  generalize b.store.search u.identifier tries tenant left b.issued = found
  obtain ⟨error | id, n⟩ := found
  · rfl
  · rfl

end

/-! ## Creations from material -/

namespace Keystore

/-- A creation of a secret that is a deposit of material, and that can be undone. -/
structure Deposits (u : Supply) (tries : Nat) (caller : Caller) (s : Secret) (m : Sealed) (e : Engine)
    (c : Creation Action) (after : Engine) : Prop where
  result : c.result = (e.deposit u tries caller.tenant m).1
  secret : c.secret = match c.result with
    | .ok _ => s.enter inUse
    | .error _ => s
  engine : after = { e with toBacking := (e.deposit u tries caller.tenant m).2 }
  undone (d : Engine) : d.toBacking = after.toBacking →
    c.ledger.clean.run u.answer d = ((.undone, ⟨[], false⟩),
      { d with toBacking := d.withdraw caller.tenant (u.reference e.referred) c.result.toOption })

/-- How a creation goes on once material is kept under a reference, whichever keystore keeps it. -/
def issueFor (tries : Nat) (caller : Caller) (s : Secret) (ref : String) (ledger : Ledger Action) :
    Action (Creation Action) := do
  match ← (Action.registry.allocate (Call.candidates Action.make tries) caller.tenant
      (.ofSecret ref)).run with
  | .error error => return ⟨.error error, s, ledger⟩
  | .ok id =>
    let ledger := ledger.enter ⟨"delete translation row", Action.registry.delete caller.tenant id⟩
    return ⟨.ok id, s.enter inUse, ledger⟩

section
variable {u : Supply} {tries : Nat} {caller : Caller} {s : Secret} {m : Sealed} {e : Engine}

theorem eval_clean_one {c : Compensation Action} {d d' : Engine}
    (undone : c.undo.run.run u.answer d = (.ok (), d')) :
    ((Ledger.empty.enter c).clean).run u.answer d = ((.undone, ⟨[], false⟩), d') := by
  unfold Ledger.clean Ledger.enter Ledger.empty Ledger.undoAll
  simp only [Bool.false_eq_true, if_false, run_bind, undone]
  rfl

theorem eval_clean_two {c c' : Compensation Action} {d d₁ d' : Engine}
    (first : c'.undo.run.run u.answer d = (.ok (), d₁))
    (last : c.undo.run.run u.answer d₁ = (.ok (), d')) :
    (((Ledger.empty.enter c).enter c').clean).run u.answer d = ((.undone, ⟨[], false⟩), d') := by
  unfold Ledger.clean Ledger.enter Ledger.empty Ledger.undoAll Ledger.undoAll
  simp only [Bool.false_eq_true, if_false, run_bind, first, last]
  rfl

/-- The compensation for an entry that was added. -/
def rowAdded (caller : Caller) (id : String) : Compensation Action :=
  ⟨"delete translation row", Action.registry.delete caller.tenant id⟩

theorem eval_issueFor {ref : String} {ledger : Ledger Action} :
    (issueFor tries caller s ref ledger).run u.answer e =
      (match (e.issue u tries caller.tenant (.ofSecret ref) tries).1 with
        | .error error => ⟨.error error, s, ledger⟩
        | .ok id => ⟨.ok id, s.enter inUse, ledger.enter (rowAdded caller id)⟩,
      { e with toBacking := (e.issue u tries caller.tenant (.ofSecret ref) tries).2 }) := by
  have issued : (Action.registry.allocate (Call.candidates Action.make tries) caller.tenant
      (.ofSecret ref)).run.run u.answer e =
        ((e.issue u tries caller.tenant (.ofSecret ref) tries).1,
          { e with toBacking := (e.issue u tries caller.tenant (.ofSecret ref) tries).2 }) :=
    eval_issue tries
  unfold issueFor
  rw [run_bind, issued]
  cases (e.issue u tries caller.tenant (.ofSecret ref) tries).1 with
  | error _ => rfl
  | ok _ => rfl

/-- A program that keeps material in a way that can be undone, and then issues an identifier. -/
theorem deposits_of {p : Action (Creation Action)} {c : Compensation Action}
    (kept : p.run u.answer e =
      (issueFor tries caller s (u.reference e.referred) (Ledger.empty.enter c)).run u.answer
        { e with toBacking := e.keep u m })
    (undo : ∀ d : Engine, d.material.lookup (u.reference e.referred) = some m →
      c.undo.run.run u.answer d =
        (.ok (), { d with material := d.material.drop (u.reference e.referred) })) :
    Deposits u tries caller s m e (p.run u.answer e).1 (p.run u.answer e).2 := by
  rw [kept, eval_issueFor]
  have held : ∀ d : Engine, d.material = (e.keep u m).material →
      d.material.lookup (u.reference e.referred) = some m := by
    intro d same
    rw [same]
    exact Keyed.lookup_put_self
  obtain ⟨error, n, issued⟩ | ⟨id, store, n, issued, added⟩ :=
    issue_cases u tries caller.tenant (.ofSecret (u.reference e.referred)) tries (e.keep u m)
  · rw [issued]
    refine ⟨?_, rfl, ?_, ?_⟩
    · rw [Backing.deposit, issued]
    · rw [Backing.deposit, issued]
    · intro d same
      have shown : d.toBacking = { e.keep u m with issued := n } := same
      have material : d.material = (e.keep u m).material := by rw [shown]
      rw [eval_clean_one (undo d (held d material))]
      rfl
  · rw [issued]
    refine ⟨?_, rfl, ?_, ?_⟩
    · rw [Backing.deposit, issued]
    · rw [Backing.deposit, issued]
    · intro d same
      have shown : d.toBacking = { e.keep u m with store := store, issued := n } := same
      have material : d.material = (e.keep u m).material := by rw [shown]
      have standing : d.store = store := by rw [shown]
      have gone : (d.store.delete caller.tenant id).1 = .ok () := by
        rw [standing]
        exact Store.delete_eq (Store.isClosed_add added).2
      have first : (rowAdded caller id).undo.run.run u.answer d =
          (.ok (), { d with store := (d.store.delete caller.tenant id).2 }) := by
        rw [← gone]
        rfl
      rw [eval_clean_two first (undo _ (held _ material))]
      rfl

theorem InMemory.create_of_material (supplied : s.material? = some m) :
    (Action.memoryKeystore tries).create caller s .empty =
      InMemory.keep Action.registry (Call.vault Action.make) (Call.fresh Action.make)
        (Call.candidates Action.make tries) caller s m .empty := by
  change InMemory.create Action.registry (Call.vault Action.make) (Call.fresh Action.make)
    (Call.candidates Action.make tries) caller s .empty = _
  rw [InMemory.create, supplied]

theorem InMemory.create_of_refused {error : Error} (none : s.material? = none)
    (refused : s.keyParameters = .error error) :
    (Action.memoryKeystore tries).create caller s .empty =
      pure ⟨.error error, s.withKeyDefaults, .empty⟩ := by
  change InMemory.create Action.registry (Call.vault Action.make) (Call.fresh Action.make)
    (Call.candidates Action.make tries) caller s .empty = _
  rw [InMemory.create, none, refused]

theorem InMemory.create_of_parameters {key : KeyParameters} (none : s.material? = none)
    (given : s.keyParameters = .ok key) :
    (Action.memoryKeystore tries).create caller s .empty =
      InMemory.generate (Call.fresh Action.make) key.bitLength >>= fun material =>
        InMemory.keep Action.registry (Call.vault Action.make) (Call.fresh Action.make)
          (Call.candidates Action.make tries) caller s.withKeyDefaults material .empty := by
  change InMemory.create Action.registry (Call.vault Action.make) (Call.fresh Action.make)
    (Call.candidates Action.make tries) caller s .empty = _
  rw [InMemory.create, none, given]

theorem deposits_keep :
    let p := InMemory.keep Action.registry (Call.vault Action.make) (Call.fresh Action.make)
      (Call.candidates Action.make tries) caller s m .empty
    Deposits u tries caller s m e (p.run u.answer e).1 (p.run u.answer e).2 :=
  deposits_of (c := ⟨"delete memory material", ExceptT.lift
    ((Call.vault Action.make).drop (u.reference e.referred))⟩) rfl fun _ _ => rfl

theorem deposits_store :
    let p := Networked.store Action.registry (Call.barbican Action.make)
      (Call.candidates Action.make tries) caller s m .empty
    Deposits u tries caller s m e (p.run u.answer e).1 (p.run u.answer e).2 := by
  refine deposits_of (c := ⟨"delete backend secret",
    (Call.barbican Action.make).deleteSecret caller (u.reference e.referred)⟩) rfl fun d held => ?_
  exact Supply.answer_deleteSecret held

end

end Keystore

/-! ## Reading and deleting in memory -/

namespace Keystore.InMemory

variable {u : Supply} {tries : Nat} {caller : Caller} {id : String} {e : Engine} {ledger : Ledger Action}

theorem eval_reference :
    (reference Action.registry caller id).run.run u.answer e = (e.reference caller.tenant id, e) := by
  have looked : (Action.registry.get caller.tenant id).run.run u.answer e =
    (e.store.get caller.tenant id, e) := rfl
  unfold reference Backing.reference
  rw [ExceptT.run_bind, run_bind, looked]
  cases e.store.get caller.tenant id with
  | error _ => rfl
  | ok x =>
    simp only [Except.bind]
    cases x.secret? with
    | none => rfl
    | some _ => rfl

theorem eval_payload : ((Action.memoryKeystore tries).payload caller id).run.run u.answer e =
    ((e.reference caller.tenant id).bind fun ref =>
      match e.material.lookup ref with
      | some m => .ok (.active m)
      | none => .error (.noSecret id), e) := by
  change (payload Action.registry (Call.vault Action.make) caller id).run.run u.answer e = _
  unfold payload
  rw [ExceptT.run_bind, run_bind, eval_reference]
  cases e.reference caller.tenant id with
  | error _ => rfl
  | ok ref =>
    change (match e.material.lookup ref with
      | some m => (pure (.active m) : ExceptT Error Action Observation)
      | none => throw (Error.noSecret id)).run.run u.answer e = _
    simp only [Except.bind]
    cases e.material.lookup ref with
    | none => rfl
    | some _ => rfl

theorem eval_check : ((Action.memoryKeystore tries).check caller id).run.run u.answer e =
    ((e.reference caller.tenant id).map fun ref =>
      if (e.material.lookup ref).isSome then .activation else .destroyed, e) := by
  change (check Action.registry (Call.vault Action.make) caller id).run.run u.answer e = _
  unfold check
  rw [ExceptT.run_bind, run_bind, eval_reference]
  cases e.reference caller.tenant id with
  | error _ => rfl
  | ok ref =>
    change (match e.material.lookup ref with
      | some _ => (pure .activation : ExceptT Error Action Phase)
      | none => pure .destroyed).run.run u.answer e = _
    simp only [Except.map]
    cases e.material.lookup ref with
    | none => rfl
    | some _ => rfl

theorem eval_delete : ((Action.memoryKeystore tries).delete caller id ledger).run u.answer e =
    match e.reference caller.tenant id with
    | .error error => ((.error error, ledger), e)
    | .ok ref => (((e.store.delete caller.tenant id).1, ledger),
      { e with toBacking := e.withdraw caller.tenant ref (some id) }) := by
  have deleted : (delete Action.registry (Call.vault Action.make) caller id).run.run u.answer e =
      match e.reference caller.tenant id with
      | .error error => (.error error, e)
      | .ok ref => ((e.store.delete caller.tenant id).1,
        { e with toBacking := e.withdraw caller.tenant ref (some id) }) := by
    unfold delete
    rw [ExceptT.run_bind, run_bind, eval_reference]
    cases e.reference caller.tenant id with
    | error _ => rfl
    | ok ref => rfl
  change ((delete Action.registry (Call.vault Action.make) caller id).run >>= fun x =>
    pure (x, ledger)).run u.answer e = _
  rw [run_bind, deleted]
  cases e.reference caller.tenant id with
  | error _ => rfl
  | ok _ => rfl

end Keystore.InMemory

/-! ## Reading and deleting over the API -/

/-- Material is held for an identifier, under a reference that its entry names without an order. -/
structure Backing.Holds (tenant : Tenant) (id ref : String) (m : Sealed) (b : Backing) : Prop where
  entry : ∃ x, b.store.get tenant id = .ok x ∧ x.order? = none ∧ x.secret? = some ref
  material : b.material.lookup ref = some m

namespace Keystore.Networked

variable {u : Supply} {tries : Nat} {caller : Caller} {id ref : String} {m : Sealed} {e e' : Engine}
  {ledger : Ledger Action}

theorem eval_retry_ok {α : Type} {operation : String} {attempt : ExceptT Error Action α} {a : α}
    (h : attempt.run.run u.answer e = (.ok a, e')) :
    (retry Action.count operation attempt).run.run u.answer e = (.ok a, e') :=
  Retry.eval_attempts nofun h

theorem eval_retry_refused {α : Type} {operation : String} {attempt : ExceptT Error Action α}
    {error : Error} (final : error.isRetryable = false)
    (h : attempt.run.run u.answer e = (.error error, e')) :
    (retry Action.count operation attempt).run.run u.answer e = (.error error, e') := by
  refine Retry.eval_attempts ?_ h
  rintro _ ⟨⟩
  exact final

theorem eval_look_missing {error : Error} (missing : e.store.get caller.tenant id = .error error)
    (final : error.isRetryable = false) :
    (look Action.registry (Call.barbican Action.make) Action.count caller id).run.run u.answer e =
      (.error error, e) := by
  have looked : (Action.registry.get caller.tenant id).run.run u.answer e = (.error error, e) := by
    rw [← missing]
    rfl
  unfold look
  rw [ExceptT.run_bind, run_bind, eval_retry_refused final looked]
  rfl

theorem eval_look {x : Entry} (stands : e.store.get caller.tenant id = .ok x)
    (ready : x.order? = none) :
    (look Action.registry (Call.barbican Action.make) Action.count caller id).run.run u.answer e =
      (.ok (.ready x), e) := by
  have looked : (Action.registry.get caller.tenant id).run.run u.answer e = (.ok x, e) := by
    rw [← stands]
    rfl
  have settled : x.pending? = none := by simp [Entry.pending?, ready]
  unfold look
  rw [ExceptT.run_bind, run_bind, eval_retry_ok looked]
  simp only [resolve, settled]
  rfl

theorem eval_payload_missing {error : Error} (missing : e.store.get caller.tenant id = .error error)
    (final : error.isRetryable = false) :
    ((Action.barbicanKeystore tries).payload caller id).run.run u.answer e = (.error error, e) := by
  change (payload Action.registry (Call.barbican Action.make) Action.count caller id).run.run
    u.answer e = _
  unfold payload
  rw [ExceptT.run_bind, run_bind, eval_look_missing missing final]
  rfl

theorem eval_payload (h : e.Holds caller.tenant id ref m) :
    ((Action.barbicanKeystore tries).payload caller id).run.run u.answer e = (.ok (.active m), e) := by
  obtain ⟨⟨x, stands, ready, named⟩, held⟩ := h
  have got : ((Call.barbican Action.make).getPayload caller ref .text).run.run u.answer e = (.ok m, e) :=
    Supply.answer_getPayload held
  have supplied : x.isGenerated = false := by simp [Entry.isGenerated, ready]
  change (payload Action.registry (Call.barbican Action.make) Action.count caller id).run.run
    u.answer e = _
  unfold payload
  rw [ExceptT.run_bind, run_bind, eval_look stands ready]
  change (fetch (Call.barbican Action.make) Action.count caller x).run.run u.answer e = _
  unfold fetch
  simp only [named, supplied, Bool.false_eq_true, if_false]
  rw [ExceptT.run_bind, run_bind, eval_retry_ok got]
  rfl

theorem eval_check_missing {error : Error} (missing : e.store.get caller.tenant id = .error error)
    (final : error.isRetryable = false) :
    ((Action.barbicanKeystore tries).check caller id).run.run u.answer e = (.error error, e) := by
  change (check Action.registry (Call.barbican Action.make) Action.count caller id).run.run
    u.answer e = _
  unfold check
  rw [ExceptT.run_bind, run_bind, eval_look_missing missing final]
  rfl

theorem eval_check (h : e.Holds caller.tenant id ref m) :
    ((Action.barbicanKeystore tries).check caller id).run.run u.answer e = (.ok .activation, e) := by
  obtain ⟨⟨x, stands, ready, -⟩, -⟩ := h
  change (check Action.registry (Call.barbican Action.make) Action.count caller id).run.run
    u.answer e = _
  unfold check
  rw [ExceptT.run_bind, run_bind, eval_look stands ready]
  rfl

theorem eval_delete_missing {error : Error} (missing : e.store.get caller.tenant id = .error error) :
    ((Action.barbicanKeystore tries).delete caller id ledger).run u.answer e =
      ((.error error, ledger), e) := by
  change ((delete Action.registry (Call.barbican Action.make) Action.count caller id).run >>= fun x =>
    pure (x, ledger)).run u.answer e = _
  have looked : (Action.registry.get caller.tenant id).run.run u.answer e = (.error error, e) := by
    rw [← missing]
    rfl
  unfold delete
  rw [ExceptT.run_bind, run_bind, run_bind, looked]
  rfl

theorem eval_delete (isOpen : e.store.isClosed = false) (h : e.Holds caller.tenant id ref m) :
    ((Action.barbicanKeystore tries).delete caller id ledger).run u.answer e =
      ((.ok (), ledger), { e with toBacking := e.withdraw caller.tenant ref (some id) }) := by
  obtain ⟨⟨x, stands, ready, named⟩, held⟩ := h
  have looked : (Action.registry.get caller.tenant id).run.run u.answer e = (.ok x, e) := by
    rw [← stands]
    rfl
  have settled_eq : settled (Call.barbican Action.make) caller x = pure x := by
    simp [settled, Entry.pending?, ready]
  have dropped : ((Call.barbican Action.make).deleteSecret caller ref).run.run u.answer e =
      (.ok (), { e with material := e.material.drop ref }) :=
    Supply.answer_deleteSecret held
  have removed : (Action.registry.delete caller.tenant id).run.run u.answer
      { e with material := e.material.drop ref } =
        (.ok (), { e with toBacking := e.withdraw caller.tenant ref (some id) }) := by
    have well : (e.store.delete caller.tenant id).1 = .ok () := Store.delete_eq isOpen
    rw [← well]
    rfl
  have forgotten : forgetOrder (Call.barbican Action.make) Action.count caller x = pure () := by
    simp [forgetOrder, ready]
  change ((delete Action.registry (Call.barbican Action.make) Action.count caller id).run >>= fun x =>
    pure (x, ledger)).run u.answer e = _
  unfold delete
  rw [run_bind, ExceptT.run_bind, run_bind, looked]
  simp only [settled_eq, named, pure_bind]
  have ended : (do
      (Call.barbican Action.make).deleteSecret caller ref
      Action.registry.delete caller.tenant id
      ExceptT.lift (forgetOrder (Call.barbican Action.make) Action.count caller x) :
      ExceptT Error Action Unit).run.run u.answer e =
      (.ok (), { e with toBacking := e.withdraw caller.tenant ref (some id) }) := by
    rw [ExceptT.run_bind, run_bind, dropped]
    dsimp only
    rw [ExceptT.run_bind, run_bind, removed, forgotten]
    rfl
  rw [ended]
  rfl

end Keystore.Networked

end KeyCustody
