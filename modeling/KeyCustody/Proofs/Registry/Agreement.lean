import KeyCustody.Holdings
import KeyCustody.Proofs.Registry.Lookup

/-!
# Tables and maps answer alike

The same requests on an empty table and on an empty map, with the same identifiers drawn: the replies
are the same as long as every well-formed update finds an entry. Where one does not, the table refuses
it, and the map goes on as if the entry had been added.
-/

namespace KeyCustody.Registry

/-- A request to a registry. -/
inductive Request where
  | add (tenant : Tenant) (e : Entry)
  | get (tenant : Tenant) (id : String)
  | update (tenant : Tenant) (e : Entry)
  | delete (tenant : Tenant) (id : String)
  | allocate (tenant : Tenant) (e : Entry)
  deriving DecidableEq, Repr

inductive Reply where
  | done
  | entry (e : Entry)
  | issued (id : String)
  deriving DecidableEq, Repr

namespace Reply

/-- The reply with none for each empty reference. -/
def cleared : Reply → Reply
  | entry e => entry e.cleared
  | r => r

end Reply

namespace Request

def perform {m : Type → Type} [Monad m] (r : Registry m) (c : Candidates m) :
    Request → ExceptT Error m Reply
  | add tenant e => do r.add tenant e; return .done
  | get tenant id => return .entry (← r.get tenant id)
  | update tenant e => do r.update tenant e; return .done
  | delete tenant id => do r.delete tenant id; return .done
  | allocate tenant e => return .issued (← r.allocate c tenant e)

end Request

/-! ## Sessions -/

/-- A computation on holdings that counts the identifiers it draws. -/
abbrev Session := StateT Nat (StateM Holdings)

namespace Session

variable (draw : Nat → String) (tries : Nat)

/-- The `n`-th identifier drawn is `draw n`. -/
def candidates : Candidates Session :=
  ⟨modifyGet fun n => (draw n, n + 1), tries⟩

/-- The reply to a request after `n` draws, the draws made then, and the store it leaves. -/
def serve (q : Request) (n : Nat) (s : Store) : Except Error Reply × Nat × Store :=
  let ((reply, n), h) := ((q.perform Holdings.registry (candidates draw tries)).run.run n).run
    { store := s }
  (reply, n, h.store)

/-- The replies to requests one after the other. -/
def serveAll : List Request → Nat → Store → List (Except Error Reply) × Nat × Store
  | [], n, s => ([], n, s)
  | q :: qs, n, s =>
    let (reply, n, s) := serve draw tries q n s
    let (replies, n, s) := serveAll qs n s
    (reply :: replies, n, s)

end Session

/-! ## Stores that agree -/

namespace Store

variable {s s' t t' : Store} {tenant : Tenant} {e : Entry} {id : String}

/-- Stores in which the same stands under every identifier, up to empty references. -/
structure Agree (s s' : Store) : Prop where
  left : s.Sound
  right : s'.Sound
  same (tenant : Tenant) (id : String) :
    (s.live? tenant id).map Entry.cleared = (s'.live? tenant id).map Entry.cleared

def isMap : Store → Bool
  | table .. => false
  | map _ => true

theorem isMap_add : (s.add tenant e).2.isMap = s.isMap := by
  cases s with
  | table isReady rows => cases isReady <;> rfl
  | map entries => rfl

theorem isMap_update : (s.update tenant e).2.isMap = s.isMap := by
  cases s with
  | table isReady rows => cases isReady <;> rfl
  | map entries => rfl

theorem isMap_delete : (s.delete tenant id).2.isMap = s.isMap := by
  cases s with
  | table isReady rows => cases isReady <;> rfl
  | map entries => rfl

theorem cleared_found (stands : Option Entry) :
    (found id stands).map Entry.cleared = found id (stands.map Entry.cleared) := by
  cases stands with
  | none => rfl
  | some e =>
    simp only [found, Option.map_some, Entry.isEmpty_cleared]
    by_cases empty : e.isEmpty = true
    · rw [if_pos empty, if_pos empty]
      rfl
    · rw [if_neg empty, if_neg empty]
      rfl

namespace Agree

theorem isSome_live? (h : Agree s s') :
    (s.live? tenant id).isSome = (s'.live? tenant id).isSome := by
  have same := congrArg Option.isSome (h.same tenant id)
  simpa using same

theorem get (h : Agree s s') (tenant : Tenant) (id : String) :
    (s.get tenant id).map Entry.cleared = (s'.get tenant id).map Entry.cleared := by
  simp only [get_eq, h.left.isOpen, h.right.isOpen, Bool.false_eq_true, if_false, cleared_found,
    h.same]

theorem enter (h : Agree s s') (change : Enters tenant e s t) (change' : Enters tenant e s' t') :
    Agree t t' := by
  refine ⟨change.sound h.left, change'.sound h.right, fun tenant' id' => ?_⟩
  by_cases same : (tenant', id') = (tenant, e.issuedId)
  · obtain ⟨rfl, rfl⟩ := Prod.mk.inj same
    exact change.self.trans change'.self.symm
  · rw [change.other _ _ same, change'.other _ _ same]
    exact h.same tenant' id'

/-- Two calls with the same result, each of which enters the entry if it is well and else changes
nothing. -/
theorem both (h : Agree s s') {outcome outcome' : Except Error Unit × Store}
    (same : outcome.1 = outcome'.1)
    (enters : outcome.1 = .ok () → Enters tenant e s outcome.2)
    (enters' : outcome'.1 = .ok () → Enters tenant e s' outcome'.2)
    (fails : ∀ error, outcome.1 = .error error → outcome.2 = s)
    (fails' : ∀ error, outcome'.1 = .error error → outcome'.2 = s') :
    Agree outcome.2 outcome'.2 := by
  cases result : outcome.1 with
  | ok _ => exact h.enter (enters result) (enters' (same ▸ result))
  | error error =>
    rw [fails error result, fails' error (same ▸ result)]
    exact h

theorem add (h : Agree s s') (tenant : Tenant) (e : Entry) :
    (s.add tenant e).1 = (s'.add tenant e).1 ∧ Agree (s.add tenant e).2 (s'.add tenant e).2 := by
  have same : (s.add tenant e).1 = (s'.add tenant e).1 := by
    rw [add_result h.left.unique h.left.isOpen, add_result h.right.unique h.right.isOpen,
      h.isSome_live?]
  refine ⟨same, h.both same (fun well => enters_add (Prod.ext well rfl))
    (fun well => enters_add (Prod.ext well rfl)) (fun _ failed => add_error failed)
    fun _ failed => add_error failed⟩

theorem update (h : Agree s s') (live : e.check = .ok () → (s.live? tenant e.issuedId).isSome) :
    (s.update tenant e).1 = (s'.update tenant e).1 ∧
      Agree (s.update tenant e).2 (s'.update tenant e).2 := by
  have same : (s.update tenant e).1 = (s'.update tenant e).1 := by
    rw [update_result h.left.isOpen live, update_result h.right.isOpen (h.isSome_live? ▸ live)]
  refine ⟨same, h.both same (fun well => enters_update (Prod.ext well rfl))
    (fun well => enters_update (Prod.ext well rfl)) (fun _ failed => update_error failed)
    fun _ failed => update_error failed⟩

theorem delete (h : Agree s s') (tenant : Tenant) (id : String) :
    (s.delete tenant id).1 = (s'.delete tenant id).1 ∧
      Agree (s.delete tenant id).2 (s'.delete tenant id).2 := by
  refine ⟨(delete_eq h.left.isOpen).trans (delete_eq h.right.isOpen).symm,
    sound_delete h.left, sound_delete h.right, fun tenant' id' => ?_⟩
  by_cases same : (tenant', id') = (tenant, id)
  · obtain ⟨rfl, rfl⟩ := Prod.mk.inj same
    rw [live?_delete_self h.left.isOpen, live?_delete_self h.right.isOpen]
  · rw [live?_delete_other same, live?_delete_other same]
    exact h.same tenant' id'

end Agree

end Store

namespace Request

/-- A well-formed update of what does not stand. -/
def isStray (s : Store) : Request → Bool
  | update tenant e => e.check.isOk && !(s.get tenant e.issuedId).isOk
  | _ => false

theorem isStray_update {tenant : Tenant} {e : Entry} {s : Store} :
    (update tenant e).isStray s = true ↔
      e.check = .ok () ∧ ∃ error, s.get tenant e.issuedId = .error error := by
  cases checked : e.check <;> cases found : s.get tenant e.issuedId <;>
    simp [isStray, checked, found, Except.isOk, Except.toBool]

/-- What a map makes of a request: a stray update adds the entry. -/
def onMap (s : Store) : Request → Request
  | update tenant e => if (update tenant e).isStray s then add tenant e else update tenant e
  | q => q

theorem onMap_eq {q : Request} {s : Store} (regular : q.isStray s = false) : q.onMap s = q := by
  cases q with
  | update tenant e => exact if_neg (by simp [regular])
  | _ => rfl

end Request

namespace Session

/-- No update is stray when its turn comes. -/
def Regular (draw : Nat → String) (tries : Nat) : List Request → Nat → Store → Prop
  | [], _, _ => True
  | q :: qs, n, s =>
    q.isStray s = false ∧
      Regular draw tries qs (serve draw tries q n s).2.1 (serve draw tries q n s).2.2

/-- The replies to requests where every stray update is taken as an addition. -/
def serveAdding (draw : Nat → String) (tries : Nat) :
    List Request → Nat → Store → List (Except Error Reply) × Nat × Store
  | [], n, s => ([], n, s)
  | q :: qs, n, s =>
    let (reply, n, s) := serve draw tries (q.onMap s) n s
    let (replies, n, s) := serveAdding draw tries qs n s
    (reply :: replies, n, s)

variable {draw : Nat → String} {tries left n : Nat} {h : Holdings} {s s' : Store} {tenant : Tenant}
  {e : Entry} {id : String}

theorem run_onStore {α : Type} {f : Store → Except Error α × Store} {reply : α → Reply} :
    ((ExceptT.run (m := Session)
      (do let a ← ExceptT.mk (Holdings.onStore f); return reply a)).run n).run h =
      (((f h.store).1.map reply, n), { h with store := (f h.store).2 }) := by
  have asked : ((Holdings.onStore f : Session (Except Error α)).run n).run h =
      (((f h.store).1, n), { h with store := (f h.store).2 }) := rfl
  rw [ExceptT.run_bind, ExceptT.run_mk, StateT.run_bind, StateT.run_bind, asked]
  cases (f h.store).1 with
  | ok a => rfl
  | error error => rfl

theorem serve_add : serve draw tries (.add tenant e) n s =
    ((s.add tenant e).1.map fun () => .done, n, (s.add tenant e).2) :=
  congrArg (fun r : (Except Error Reply × Nat) × Holdings => (r.1.1, r.1.2, r.2.store))
    (run_onStore (h := { store := s }) (f := (·.add tenant e)))

theorem serve_get : serve draw tries (.get tenant id) n s = ((s.get tenant id).map .entry, n, s) :=
  congrArg (fun r : (Except Error Reply × Nat) × Holdings => (r.1.1, r.1.2, r.2.store))
    (run_onStore (h := { store := s }) (f := fun s => (s.get tenant id, s)))

theorem serve_update : serve draw tries (.update tenant e) n s =
    ((s.update tenant e).1.map fun () => .done, n, (s.update tenant e).2) :=
  congrArg (fun r : (Except Error Reply × Nat) × Holdings => (r.1.1, r.1.2, r.2.store))
    (run_onStore (h := { store := s }) (f := (·.update tenant e)))

theorem serve_delete : serve draw tries (.delete tenant id) n s =
    ((s.delete tenant id).1.map fun () => .done, n, (s.delete tenant id).2) :=
  congrArg (fun r : (Except Error Reply × Nat) × Holdings => (r.1.1, r.1.2, r.2.store))
    (run_onStore (h := { store := s }) (f := (·.delete tenant id)))

/-- How an allocation that may try `left` more candidates after `n` draws ends, as a reply to a
request. -/
def allocated (draw : Nat → String) (tries : Nat) (tenant : Tenant) (e : Entry) (left n : Nat)
    (s : Store) : Except Error String × Nat × Store :=
  let ((issued, n), h) := ((allocateWithin tries Holdings.registry (candidates draw tries).draw
    tenant e left).run.run n).run { store := s }
  (issued, n, h.store)

/-- One candidate of an allocation: the search goes on if it is found, ends if looking it up fails
otherwise, and else adds the entry. -/
theorem allocated_succ : allocated draw tries tenant e (left + 1) n s =
    match s.get tenant (draw n) with
    | .ok _ => allocated draw tries tenant e left (n + 1) s
    | .error error =>
      if error.isNotFound then
        ((s.add tenant { e with issuedId := draw n }).1.map fun () => draw n, n + 1,
          (s.add tenant { e with issuedId := draw n }).2)
      else (.error error, n + 1, s) := by
  unfold allocated
  conv_lhs => unfold allocateWithin
  change (match StateT.run (m := StateM Holdings) (match s.get tenant (draw n) with
      | .ok _ =>
        (allocateWithin tries Holdings.registry (candidates draw tries).draw tenant e left).run
      | .error error => _) (n + 1) { store := s } with
    | ((issued, n), h) => (issued, n, h.store)) = _
  cases s.get tenant (draw n) with
  | ok _ => rfl
  | error error =>
    by_cases missing : error.isNotFound = true
    · simp only [missing, if_true]
      rfl
    · simp only [missing, Bool.false_eq_true, if_false]
      rfl

theorem serve_allocate : serve draw tries (.allocate tenant e) n s =
    ((allocated draw tries tenant e tries n s).1.map .issued,
      (allocated draw tries tenant e tries n s).2) := by
  have mapped : (Request.perform Holdings.registry (candidates draw tries)
      (.allocate tenant e)).run = (fun issued => issued.map Reply.issued) <$>
        (Registry.allocate Holdings.registry (candidates draw tries) tenant e).run :=
    ExceptT.run_map ..
  unfold serve
  rw [mapped]
  rfl

/-- The same identifiers are tried on stores that agree, and the stores go on agreeing. -/
theorem allocated_agree (draw : Nat → String) (tries : Nat) (tenant : Tenant) (e : Entry)
    (left n : Nat) (agree : Store.Agree s s') :
    (allocated draw tries tenant e left n s).1 = (allocated draw tries tenant e left n s').1 ∧
      (allocated draw tries tenant e left n s).2.1 = (allocated draw tries tenant e left n s').2.1 ∧
      Store.Agree (allocated draw tries tenant e left n s).2.2
        (allocated draw tries tenant e left n s').2.2 := by
  induction left generalizing n with
  | zero => exact ⟨rfl, rfl, agree⟩
  | succ left ih =>
    have looked := agree.get tenant (draw n)
    rw [allocated_succ, allocated_succ]
    cases found : s.get tenant (draw n) with
    | ok entry =>
      cases found' : s'.get tenant (draw n) with
      | ok entry' => exact ih (n + 1)
      | error error' => rw [found, found'] at looked; cases looked
    | error error =>
      cases found' : s'.get tenant (draw n) with
      | ok entry' => rw [found, found'] at looked; cases looked
      | error error' =>
        rw [found, found'] at looked
        obtain rfl : error = error' := Except.error.inj looked
        by_cases missing : error.isNotFound = true
        · obtain ⟨same, agree⟩ := agree.add tenant { e with issuedId := draw n }
          dsimp only
          rw [if_pos missing, if_pos missing, same]
          exact ⟨rfl, rfl, agree⟩
        · dsimp only
          rw [if_neg missing, if_neg missing]
          exact ⟨rfl, rfl, agree⟩

/-- A request to stores that agree, if it is no stray update, is answered alike, up to empty references,
and leaves stores that agree. -/
theorem serve_agree (draw : Nat → String) (tries n : Nat) {q : Request} (agree : Store.Agree s s')
    (regular : q.isStray s = false) :
    (serve draw tries q n s).1.map Reply.cleared = (serve draw tries q n s').1.map Reply.cleared ∧
      (serve draw tries q n s).2.1 = (serve draw tries q n s').2.1 ∧
      Store.Agree (serve draw tries q n s).2.2 (serve draw tries q n s').2.2 := by
  cases q with
  | add tenant e =>
    obtain ⟨same, agree⟩ := agree.add tenant e
    rw [serve_add, serve_add, same]
    exact ⟨rfl, rfl, agree⟩
  | get tenant id =>
    have looked := agree.get tenant id
    rw [serve_get, serve_get]
    refine ⟨?_, rfl, agree⟩
    have shown := congrArg (Except.map Reply.entry) looked
    cases found : s.get tenant id <;> cases found' : s'.get tenant id <;>
      rw [found, found'] at shown <;> exact shown
  | update tenant e =>
    have live : e.check = .ok () → (s.live? tenant e.issuedId).isSome = true := by
      intro well
      cases found : s.get tenant e.issuedId with
      | ok entry => simp [(Store.live?_of_get found).2.1]
      | error error =>
        rw [Request.isStray_update.2 ⟨well, error, found⟩] at regular
        cases regular
    obtain ⟨same, agree⟩ := agree.update live
    rw [serve_update, serve_update, same]
    exact ⟨rfl, rfl, agree⟩
  | delete tenant id =>
    obtain ⟨same, agree⟩ := agree.delete tenant id
    rw [serve_delete, serve_delete, same]
    exact ⟨rfl, rfl, agree⟩
  | allocate tenant e =>
    obtain ⟨same, drawn, agree⟩ := allocated_agree draw tries tenant e tries n agree
    rw [serve_allocate, serve_allocate, same]
    exact ⟨rfl, drawn, agree⟩

theorem agree_empty : Store.Agree (.table true []) (.map []) where
  left := Store.sound_empty_table
  right := Store.sound_empty_map
  same _ _ := rfl

/-- A well-formed update of what does not stand: a table refuses it and stays as it is, and a map
takes the entry, so that it agrees with the table to which the entry has been added. -/
theorem stray_update (agree : Store.Agree s s') (ofTable : s.isMap = false) (ofMap : s'.isMap = true)
    (well : e.check = .ok ()) (stray : s.live? tenant e.issuedId = none) :
    s.update tenant e = (.error (.noSecret e.issuedId), s) ∧ (s.add tenant e).1 = .ok () ∧
      ∃ t, s'.update tenant e = (.ok (), t) ∧ t.get tenant e.issuedId = .ok e ∧
        (∀ tenant' id', (tenant', id') ≠ (tenant, e.issuedId) →
          t.get tenant' id' = s'.get tenant' id') ∧
        Store.Agree (s.add tenant e).2 t := by
  have added : (s.add tenant e).1 = .ok () := by
    rw [Store.add_result agree.left.unique agree.left.isOpen, well, stray]
    rfl
  cases s with
  | map => cases ofTable
  | table isReady rows =>
    obtain rfl : isReady = true := by simpa [Store.isClosed] using agree.left.isOpen
    have refused : (rows.update tenant e).1 = .error (.noSecret e.issuedId) := by
      rw [Table.update_result, well]
      exact congrArg (fun stands : Option Entry => if stands.isSome then _ else _) stray
    refine ⟨by simp [Store.update, refused, Table.update_error refused], added, ?_⟩
    cases s' with
    | table => cases ofMap
    | map entries =>
      have taken : (Store.map entries).update tenant e =
          (.ok (), .map (entries.put (tenant, e.issuedId) e)) := by
        simp [Store.update, Map.update, well]
      have change := Store.enters_update taken
      refine ⟨_, taken, ?_, ?_, agree.enter (Store.enters_add (Prod.ext added rfl)) change⟩
      · exact Store.get_of_live? rfl Keyed.lookup_put_self (Entry.isEmpty_of_check well)
      · exact fun _ _ different => Store.get_congr rfl (change.other _ _ different)

theorem isMap_allocated : (allocated draw tries tenant e left n s).2.2.isMap = s.isMap := by
  induction left generalizing n with
  | zero => rfl
  | succ left ih =>
    rw [allocated_succ]
    cases s.get tenant (draw n) with
    | ok _ => exact ih
    | error error =>
      by_cases missing : error.isNotFound = true
      · dsimp only
        rw [if_pos missing]
        exact Store.isMap_add
      · dsimp only
        rw [if_neg missing]

theorem isMap_serve {q : Request} : (serve draw tries q n s).2.2.isMap = s.isMap := by
  cases q with
  | add tenant e => rw [serve_add]; exact Store.isMap_add
  | get tenant id => rw [serve_get]
  | update tenant e => rw [serve_update]; exact Store.isMap_update
  | delete tenant id => rw [serve_delete]; exact Store.isMap_delete
  | allocate tenant e => rw [serve_allocate]; exact isMap_allocated

/-- A request to a table and a map that agree is answered alike if a stray update is taken as an
addition by the table. -/
theorem onMap_agree (draw : Nat → String) (tries n : Nat) {q : Request} (agree : Store.Agree s s')
    (ofTable : s.isMap = false) (ofMap : s'.isMap = true) :
    (serve draw tries (q.onMap s) n s).1.map Reply.cleared =
        (serve draw tries q n s').1.map Reply.cleared ∧
      (serve draw tries (q.onMap s) n s).2.1 = (serve draw tries q n s').2.1 ∧
      Store.Agree (serve draw tries (q.onMap s) n s).2.2 (serve draw tries q n s').2.2 := by
  cases stray : q.isStray s with
  | false =>
    rw [Request.onMap_eq stray]
    exact serve_agree draw tries n agree stray
  | true =>
    cases q with
    | update tenant e =>
      obtain ⟨well, _, missing⟩ := Request.isStray_update.1 stray
      have free := Store.live?_of_get_error agree.left.filled agree.left.isOpen missing
      -- Here the two sides serve different requests, and agree again after them.
      obtain ⟨-, added, m', updated, -, -, agree'⟩ := stray_update agree ofTable ofMap well free
      have shown : (Request.update tenant e).onMap s = .add tenant e := if_pos stray
      rw [shown, serve_add, serve_update, added, updated]
      exact ⟨rfl, rfl, agree'⟩
    | _ => cases stray

theorem serveAdding_agree (draw : Nat → String) (tries : Nat) (qs : List Request) (n : Nat)
    (agree : Store.Agree s s') (ofTable : s.isMap = false)
    (ofMap : s'.isMap = true) :
    (serveAdding draw tries qs n s).1.map (Except.map Reply.cleared) =
        (serveAll draw tries qs n s').1.map (Except.map Reply.cleared) ∧
      Store.Agree (serveAdding draw tries qs n s).2.2 (serveAll draw tries qs n s').2.2 ∧
      (serveAdding draw tries qs n s).2.2.isMap = false ∧
      (serveAll draw tries qs n s').2.2.isMap = true := by
  induction qs generalizing n s s' with
  | nil => exact ⟨rfl, agree, ofTable, ofMap⟩
  | cons q qs ih =>
    obtain ⟨same, drawn, agree⟩ := onMap_agree draw tries n (q := q) agree ofTable ofMap
    obtain ⟨rest, after⟩ := ih (serve draw tries q n s').2.1 agree
      (isMap_serve.trans ofTable) (isMap_serve.trans ofMap)
    simp only [serveAdding, serveAll, List.map_cons]
    rw [same, drawn, rest]
    exact ⟨rfl, after⟩

theorem serveAdding_eq {qs : List Request} (regular : Regular draw tries qs n s) :
    serveAdding draw tries qs n s = serveAll draw tries qs n s := by
  induction qs generalizing n s with
  | nil => rfl
  | cons q qs ih =>
    obtain ⟨first, regular⟩ := regular
    simp only [serveAdding, serveAll]
    rw [Request.onMap_eq first, ih regular]

/-- Requests on an empty table and on an empty map are answered alike as long as no update is stray.
A stray update is refused by the table, which stays as it is, while the map takes the entry; there is
no other difference: whatever the requests, the map answers as the table to which the entries of all
stray updates are added. -/
theorem table_answers_as_map (draw : Nat → String) (tries : Nat) (qs : List Request) :
    (Regular draw tries qs 0 (.table true []) →
      (serveAll draw tries qs 0 (.table true [])).1.map (Except.map Reply.cleared) =
        (serveAll draw tries qs 0 (.map [])).1.map (Except.map Reply.cleared)) ∧
    (serveAdding draw tries qs 0 (.table true [])).1.map (Except.map Reply.cleared) =
      (serveAll draw tries qs 0 (.map [])).1.map (Except.map Reply.cleared) ∧
    let (_, n, t) := serveAdding draw tries qs 0 (.table true [])
    let (_, n', m) := serveAll draw tries qs 0 (.map [])
    ∀ tenant e, e.check = .ok () → t.get tenant e.issuedId = .error (.noSecret e.issuedId) →
      serve draw tries (.update tenant e) n t = (.error (.noSecret e.issuedId), n, t) ∧
      ∃ m', serve draw tries (.update tenant e) n' m = (.ok .done, n', m') ∧
        m'.get tenant e.issuedId = .ok e ∧
        ∀ tenant' id', (tenant', id') ≠ (tenant, e.issuedId) →
          m'.get tenant' id' = m.get tenant' id' := by
  obtain ⟨same, agree, ofTable, ofMap⟩ := serveAdding_agree draw tries qs 0 agree_empty rfl rfl
  refine ⟨fun regular => serveAdding_eq regular ▸ same, same, fun tenant e well missing => ?_⟩
  have free := Store.live?_of_get_error agree.left.filled agree.left.isOpen missing
  obtain ⟨refused, -, m', taken, self, other, -⟩ := stray_update agree ofTable ofMap well free
  refine ⟨?_, m', ?_, self, other⟩
  · rw [serve_update, refused]
    rfl
  · rw [serve_update, taken]
    rfl

/-- A row that is allocated, updated and deleted, and then updated once more. -/
theorem table_answers_as_map_of_four :
    let tenant : Tenant := ⟨"s", "o"⟩
    let qs : List Request := [.allocate tenant (.ofOrder "o1"),
      .update tenant ⟨"k", some "r1", some "o1"⟩, .get tenant "k", .delete tenant "k"]
    let t := (serveAll (fun _ => "k") 2 qs 0 (.table true [])).2.2
    let m := (serveAll (fun _ => "k") 2 qs 0 (.map [])).2.2
    Regular (fun _ => "k") 2 qs 0 (.table true []) ∧
      (serveAll (fun _ => "k") 2 qs 0 (.map [])).1.map (Except.map Reply.cleared) =
        [.ok (.issued "k"), .ok .done, .ok (.entry ⟨"k", some "r1", some "o1"⟩), .ok .done] ∧
      (serve (fun _ => "k") 2 (.update tenant ⟨"k", some "r2", none⟩) 1 t).1 =
        .error (.noSecret "k") ∧
      (serve (fun _ => "k") 2 (.update tenant ⟨"k", some "r2", none⟩) 1 m).1 = .ok .done := by
  intro tenant qs t m
  have regular : Regular (fun _ => "k") 2 qs 0 (.table true []) :=
    ⟨rfl, rfl, rfl, rfl, trivial⟩
  obtain ⟨same, -, stray⟩ := table_answers_as_map (fun _ => "k") 2 qs
  obtain ⟨refused, m', taken, -⟩ := stray tenant ⟨"k", some "r2", none⟩ rfl rfl
  exact ⟨regular, (same regular).symm.trans rfl, congrArg (·.1) refused, congrArg (·.1) taken⟩

/-- A malformed update of what does not stand is not answered as a missing secret. -/
theorem malformed_update_is_invalid :
    ¬ ∀ (tenant : Tenant) (e : Entry),
      (Store.table true []).get tenant e.issuedId = .error (.noSecret e.issuedId) →
        ((Store.table true []).update tenant e).1 = .error (.noSecret e.issuedId) := by
  intro always
  have refused := always ⟨"s", "o"⟩ ⟨"x", none, none⟩ rfl
  have invalid : ((Store.table true []).update ⟨"s", "o"⟩ ⟨"x", none, none⟩).1 =
    .error (.validation "A secret reference or an order reference is required" none) := rfl
  rw [invalid] at refused
  cases refused

end Session

end KeyCustody.Registry
