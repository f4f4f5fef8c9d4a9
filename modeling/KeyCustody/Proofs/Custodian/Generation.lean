import KeyCustody.Proofs.Custodian.Request
import KeyCustody.Proofs.Custodian.Undoing

/-!
# Creations of generated keys that fail

A creation without material orders a key, adds a row for the order, and stores the record. Neither the
order nor the row is entered in the ledger, so nothing is undone: when the catalog refuses the record,
the row stays behind under an identifier that nobody was told.
-/

namespace KeyCustody.Custodian

open Keystore (KeyParameters)
open Program
open Registry (Entry Store)

variable {tries : Nat} {caller : Caller} {secret : Secret} {t : Trace} {s s' : Store} {error : Error}

section
variable {ledger : Ledger Action}

theorem create_of_refused (generated : secret.material? = none)
    (refused : secret.keyParameters = .error error) :
    (Action.barbicanKeystore tries).create caller secret ledger =
      pure ⟨.error error, secret.withKeyDefaults, ledger⟩ := by
  change Keystore.Networked.create Action.registry (Call.barbican Action.make)
    (Call.candidates Action.make tries) caller secret ledger = _
  rw [Keystore.Networked.create, generated]
  simp only [refused]

theorem create_of_parameters {key : KeyParameters} (generated : secret.material? = none)
    (parameters : secret.keyParameters = .ok key) :
    (Action.barbicanKeystore tries).create caller secret ledger =
      Keystore.Networked.order Action.registry (Call.barbican Action.make)
        (Call.candidates Action.make tries) caller secret.withKeyDefaults key ledger := by
  change Keystore.Networked.create Action.registry (Call.barbican Action.make)
    (Call.candidates Action.make tries) caller secret ledger = _
  rw [Keystore.Networked.create, generated]
  simp only [parameters]

end

/-- An order for a key was posted in the trace, and a row that names it was added to the store. -/
structure Ordered (caller : Caller) (s : Store) (t : Trace) (id : String) (s' : Store) : Prop where
  took : steps t = [.row caller.tenant id]
  added : ∃ request ref, ⟨.postOrder caller request, .ok ref⟩ ∈ t ∧
    s.add caller.tenant { Entry.ofOrder ref with issuedId := id } = (.ok (), s')

theorem Ordered.extend {t' : Trace} {id : String} (h : Ordered caller s t id s') (took : steps t' = []) :
    Ordered caller s (t ++ t') id s' := by
  obtain ⟨stepped, request, ref, posted, added⟩ := h
  refine ⟨?_, request, ref, List.mem_append_left _ posted, added⟩
  rw [steps_append, stepped, took, List.append_nil]

/-- A creation without material has nothing in its ledger, also once the row is added. -/
theorem run_create_generated {created : Keystore.Creation Action} (unique : s.Unique)
    (generated : secret.hasMaterial = false)
    (h : Run (Store.world .clean) ((Action.barbicanKeystore tries).create caller secret .empty) s t
      created s') :
    undoings t = [] ∧ created.ledger = .empty ∧ match created.result with
      | .ok id => Ordered caller s t id s'
      | .error _ => steps t = [] ∧ s' = s := by
  have generated : secret.material? = none := by simpa [Secret.hasMaterial] using generated
  cases parameters : secret.keyParameters with
  | error refusal =>
    rw [create_of_refused generated parameters] at h
    obtain ⟨rfl, rfl, rfl⟩ := Run.pure_iff.1 h
    exact ⟨rfl, rfl, rfl, rfl⟩
  | ok key =>
    rw [create_of_parameters generated parameters] at h
    unfold Keystore.Networked.order at h
    obtain ⟨_, x, s, t, rfl, posted, ordered⟩ := Run.bind_iff.1 h
    obtain ⟨rfl, rfl⟩ := Run.ask_iff.1 posted
    cases x with
    | error _ =>
      obtain ⟨rfl, rfl, rfl⟩ := Run.pure_iff.1 ordered
      exact ⟨rfl, rfl, rfl, rfl⟩
    | ok ref =>
      obtain ⟨t, x, s₁, _, rfl, allocated, ended⟩ := Run.bind_iff.1 ordered
      obtain ⟨untried, found⟩ := run_allocate unique allocated
      cases x with
      | error _ =>
        obtain ⟨rfl, rfl, rfl⟩ := Run.pure_iff.1 ended
        obtain ⟨took, rfl, -⟩ := found
        rw [List.append_nil]
        exact ⟨untried, rfl, took, rfl⟩
      | ok id =>
        obtain ⟨rfl, rfl, rfl⟩ := Run.pure_iff.1 ended
        obtain ⟨took, -, -⟩ := found
        rw [List.append_nil]
        have added := Registry.add_of_run_allocate allocated
        exact ⟨untried, rfl, took, _, ref, List.mem_cons_self, added⟩

/-- What a creation without material that fails leaves in the store: nothing, or the row of its order if
it was the catalog that refused. -/
def Leaves (caller : Caller) (s : Store) (t : Trace) (error : Error) (s' : Store) : Prop :=
  undoings t = [] ∧
    (steps t = [] ∧ s' = s ∨
      ∃ id, Ordered caller s t id s' ∧
        ∃ record, record.id = id ∧ ⟨.createRecord caller record, .error error⟩ ∈ t)

theorem Leaves.extend {t' : Trace} (h : Leaves caller s t error s') (took : steps t' = [])
    (untried : undoings t' = []) : Leaves caller s (t ++ t') error s' := by
  obtain ⟨quiet, outcome⟩ := h
  refine ⟨by rw [undoings_append, quiet, untried, List.append_nil], ?_⟩
  obtain ⟨none, same⟩ | ⟨id, ordered, record, own, refused⟩ := outcome
  · exact .inl ⟨by rw [steps_append, none, took, List.append_nil], same⟩
  · exact .inr ⟨id, ordered.extend took, record, own, List.mem_append_left _ refused⟩

/-- Undoing a creation whose ledger is empty does nothing. -/
theorem run_rollBack_empty {k : Keystore Action} {operation : String} {ledger : Ledger Action}
    (h : Run (Store.world .clean) ((Action.custodian k).rollBack operation .empty) s t ledger s') :
    steps t = [] ∧ undoings t = [] ∧ s' = s := by
  have same : (Ledger.empty : Ledger Action).pending.map Compensation.undo = [].map Step.undo := rfl
  obtain ⟨took, -, undone, restored⟩ := run_rollBack same rfl h
  have untried : undoings t = [] := by
    generalize undoings t = tried at undone
    cases undone with
    | all => rfl
  exact ⟨took, untried, restored (by simp [untried])⟩

theorem run_place_generated {ledger : Ledger Action} (unique : s.Unique)
    (generated : secret.hasMaterial = false)
    (h : Run (Store.world .clean) ((Action.custodian (Action.barbicanKeystore tries)).place caller
      secret) s t (.error error, ledger) s') :
    Leaves caller s t error s' := by
  have generated : { secret with name := Text.trim secret.name : Secret }.hasMaterial = false :=
    generated
  cases run_place_error h with
  | invalid => exact ⟨rfl, .inl ⟨rfl, rfl⟩⟩
  | refused made result undone =>
    obtain ⟨untried, empty, outcome⟩ := run_create_generated unique generated made
    rw [result] at outcome
    rw [empty] at undone
    obtain ⟨none, rfl⟩ := outcome
    obtain ⟨took, quiet, rfl⟩ := run_rollBack_empty undone
    exact Leaves.extend ⟨untried, .inl ⟨none, rfl⟩⟩ took quiet
  | @unrecorded _ id now record t₁ _ _ _ _ _ made result own read declined undone =>
    obtain ⟨untried, empty, outcome⟩ := run_create_generated unique generated made
    rw [result] at outcome
    rw [empty] at undone
    -- Neither the clock nor the catalog touches the store.
    obtain rfl := read
    obtain rfl := declined
    obtain ⟨took, quiet, rfl⟩ := run_rollBack_empty undone
    have untried : undoings (t₁ ++ [⟨.now, now⟩, ⟨.createRecord caller record, .error error⟩]) = [] := by
      rw [undoings_append, untried]
      rfl
    have called := List.mem_append_right t₁ (List.mem_cons_of_mem (⟨.now, now⟩ : Event)
      (List.mem_singleton_self (⟨.createRecord caller record, .error error⟩ : Event)))
    exact Leaves.extend ⟨untried, .inr ⟨id, outcome.extend rfl, record, own ▸ rfl, called⟩⟩ took quiet

/-- A creation without material that fails undoes nothing. It has left every lookup in the store as it
was, unless it was the catalog that refused the record: then one identifier that was free stands for the
order that was posted, and every other lookup is answered as before. -/
theorem failed_generation_leaves_row {whole : Bool} (unique : s.Unique)
    (generated : secret.hasMaterial = false)
    (h : Run (Store.world .clean) ((Action.custodian (Action.barbicanKeystore tries)).create caller
      secret whole).run s t (.error error) s') :
    undoings t = [] ∧
    (steps t = [] ∧ (∀ tenant id, s'.get tenant id = s.get tenant id) ∨
      ∃ id, steps t = [.row caller.tenant id] ∧
        (∃ record, record.id = id ∧ ⟨.createRecord caller record, .error error⟩ ∈ t) ∧
        s.get caller.tenant id = .error (.noSecret id) ∧
        (∃ request ref e, ⟨.postOrder caller request, .ok ref⟩ ∈ t ∧
          s'.get caller.tenant id = .ok e ∧ e.pending? = some ref) ∧
        ∀ tenant' id', (tenant', id') ≠ (caller.tenant, id) →
          s'.get tenant' id' = s.get tenant' id') := by
  obtain ⟨t, s₁, rfl, requested, rfl⟩ := run_counted_iff.1 h
  obtain ⟨_, ⟨x, ledger⟩, _, _, rfl, placed, passed⟩ := Run.bind_iff.1 requested
  obtain ⟨rfl, same, rfl⟩ := Run.pure_iff.1 passed
  cases x with
  | ok _ => cases same
  | error refusal =>
    obtain rfl := Except.error.inj same
    rw [List.append_nil]
    have leaves : Leaves caller s (_ ++ [⟨.count (.operation "create" false), ()⟩]) _ _ :=
      (run_place_generated unique generated placed).extend rfl rfl
    obtain ⟨quiet, ⟨none, rfl⟩ | ⟨id, ⟨took, request, ref, posted, added⟩, refused⟩⟩ := leaves
    · exact ⟨quiet, .inl ⟨none, fun _ _ => rfl⟩⟩
    obtain ⟨before, after⟩ := Store.isClosed_add added
    have free : s.get caller.tenant id = .error (.noSecret id) := by
      rw [Store.get_eq, before, Store.live?_add_before unique added]
      rfl
    have full := Entry.isEmpty_of_check (Store.check_of_add added)
    obtain ⟨e, stands, same⟩ := Store.live?_add_self added
    have found : s'.get caller.tenant id = .ok e :=
      Store.get_of_live? after stands ((Entry.isEmpty_congr same).trans full)
    have pending : e.pending? = some ref := by
      rw [Entry.pending?_congr same]
      have blank : ref.isEmpty = false := by
        simpa [Entry.isEmpty, Entry.secret?, Entry.order?, Entry.present, Entry.ofOrder] using full
      simp [Entry.pending?, Entry.secret?, Entry.order?, Entry.present, Entry.ofOrder, blank]
    refine ⟨quiet, .inr ⟨id, took, refused, free, ⟨request, ref, e, posted, found, pending⟩, ?_⟩⟩
    intro tenant' id' different
    exact Store.get_congr (after.trans before.symm) (Store.live?_add_other added different)

/-- The answers of collaborators besides the store of which only the catalog does nothing. -/
def withoutRecords : (c : Call) → c.Answer
  | .postOrder .. => .ok "r"
  | .drawIdentifier => "k"
  | c => Call.refused (.catalog "down" none) c

/-- The catalog refuses the record of a key that has been ordered, no compensation fails, and a lookup is
answered differently from before. -/
theorem refused_generation_changes_lookup :
    let caller : Caller := ⟨⟨"s", "o"⟩, "c", none⟩
    let action := ((Action.custodian (Action.barbicanKeystore 1)).create caller (.named "key") true).run
    let s := Store.table true []
    let ended := action.run (Store.answer withoutRecords) s
    ended.1 = .error (.catalog "down" none) ∧
      (∀ u ∈ undoings (action.trace (Store.answer withoutRecords) s), u.2 = true) ∧
      s.get caller.tenant "k" = .error (.noSecret "k") ∧
      ended.2.get caller.tenant "k" = .ok ⟨"k", none, some "r"⟩ := by
  decide +kernel

/-- That lookup is of the identifier issued for the order. -/
theorem failed_generation_leaves_row_without_records :
    let caller : Caller := ⟨⟨"s", "o"⟩, "c", none⟩
    let action := ((Action.custodian (Action.barbicanKeystore 1)).create caller (.named "key") true).run
    let t := action.trace (Store.answer withoutRecords) (.table true [])
    let ended := action.run (Store.answer withoutRecords) (.table true [])
    steps t = [.row caller.tenant "k"] ∧
      (∃ e, ended.2.get caller.tenant "k" = .ok e ∧ e.pending?.isSome = true) ∧
      ∀ tenant id, (tenant, id) ≠ (caller.tenant, "k") →
        ended.2.get tenant id = .error (.noSecret id) := by
  intro caller action t ended
  have run := Run.of_answers (w := Store.world .clean) (Store.world_answer withoutRecords) action
    (.table true [])
  have refused : ended.1 = .error (.catalog "down" none) := by decide +kernel
  have took : steps t = [.row caller.tenant "k"] := by decide +kernel
  have unique : (Store.table true []).Unique := List.nodup_nil
  rw [refused] at run
  obtain ⟨-, ⟨none, -⟩ | ⟨id, row, -, -, ⟨_, ref, e, -, found, pending⟩, others⟩⟩ :=
    failed_generation_leaves_row unique rfl run
  · cases took.symm.trans none
  · obtain rfl : "k" = id := by simpa using took.symm.trans row
    exact ⟨took, ⟨e, found, by simp [pending]⟩, others⟩

end KeyCustody.Custodian
