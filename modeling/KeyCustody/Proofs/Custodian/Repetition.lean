import KeyCustody.Proofs.Custodian.Request
import KeyCustody.Proofs.Engine
import KeyCustody.Proofs.Keystore.Removal

/-!
# Removals that are repeated

A removal that ends with an error because one call failed leaves off where that call was made. Another one
starts over: it completes the first as long as it still finds the material, and over the vault also if just
the entry is left. Otherwise it fails before it gets to what is left to do, however often it is made.
-/

namespace KeyCustody

open Keystore (Observation)
open Program

namespace Plant

/-- Nothing is left of a secret but a record that says so. -/
structure Removed (tenant : Tenant) (id ref : String) (p : Plant) : Prop extends
    p.Cleared tenant id ref where
  record : ∃ s, p.records.get tenant id = some s ∧ s.deleted = true ∧ s.phase = .destroyed

variable {kind : Settings.KeystoreKind} {id ref message operation : String} {p p₁ p₂ p' : Plant}
  {caller : Caller} {c : Call} {tries : Nat} {ledger : Ledger Action} {whole : Bool} {s : Secret}
  {k : Keystore Action} {seen : Option Observation} {error : Error}

theorem run_counted {α : Type} {request : Action (Except Error α)} {r : Except Error α}
    (h : request.run (answer message) p = (r, p')) :
    ((Action.custodian k).counted operation request).run.run (answer message) p = (r, p') := by
  unfold Custodian.counted
  rw [ExceptT.run_mk, run_bind, h]
  rfl

/-- Counting does not fail. -/
theorem fails_counted {α : Type} {request : Action (Except Error α)} {r : Except Error α}
    (h : FailsOnce (answer message) ((Action.custodian k).counted operation request).run p c r p') :
    FailsOnce (answer message) request p c r p' := by
  obtain ⟨r, p₁, requested, ended⟩ | counted := h.bind
  · obtain ⟨rfl, rfl⟩ := Prod.mk.inj ended
    exact requested
  · obtain ⟨_, _, counted, -⟩ | ended := counted.bind
    · obtain ⟨never, -⟩ := counted.make
      cases never
    · cases ended

/-! ## Looking at the material first -/

theorem run_lastMaterial (message : String) (tries : Nat) (holds : p.Holds kind caller.tenant id ref) :
    ∃ material p', ((Action.custodian (Action.keystore tries kind)).lastMaterial caller id
        Retry.limit).run.run (answer message) p = (.ok (.active material), p') ∧
      p'.Holds kind caller.tenant id ref ∧ p'.records = p.records := by
  obtain ⟨material, p', read, kept⟩ := run_payload_held message tries holds
  exact ⟨material, p', run_bindExcept_ok read, kept⟩

theorem run_observeLast (message : String) (tries : Nat) (whole : Bool)
    (holds : p.Holds kind caller.tenant id ref) :
    ∃ seen p', ((Action.custodian (Action.keystore tries kind)).observeLast caller id whole).run.run
        (answer message) p = (.ok seen, p') ∧
      p'.Holds kind caller.tenant id ref ∧ p'.records = p.records := by
  cases whole with
  | false => exact ⟨none, p, rfl, holds, rfl⟩
  | true =>
    obtain ⟨material, p', last, kept⟩ := run_lastMaterial message tries holds
    refine ⟨some (.active material), p', ?_, kept⟩
    change (some <$> (Action.custodian (Action.keystore tries kind)).lastMaterial caller id
      Retry.limit).run.run (answer message) p = _
    rw [map_eq_pure_bind, run_bindExcept_ok last]
    rfl

theorem run_observeLast_missing (message : String) (tries : Nat)
    (missing : p.Missing kind caller.tenant id ref) :
    ∃ error p', ((Action.custodian (Action.keystore tries kind)).observeLast caller id true).run.run
        (answer message) p = (.error error, p') ∧ p'.records = p.records ∧
      (p' = p ∨ p.Emptied kind caller.tenant id ref ∧ p'.Emptied kind caller.tenant id ref) := by
  obtain ⟨error, p', read, kept⟩ := run_payload_missing message tries missing
  refine ⟨error, p', ?_, kept⟩
  have last : ((Action.custodian (Action.keystore tries kind)).lastMaterial caller id
      Retry.limit).run.run (answer message) p = (.error error, p') := run_bindExcept_error read
  change (some <$> (Action.custodian (Action.keystore tries kind)).lastMaterial caller id
    Retry.limit).run.run (answer message) p = _
  rw [map_eq_pure_bind, run_bindExcept_error last]

theorem fails_lastMaterial {r : Except Error Observation} (holds : p.Holds kind caller.tenant id ref)
    (h : FailsOnce (answer message) ((Action.custodian
      (Action.keystore tries kind)).lastMaterial caller id Retry.limit).run p c r p') :
    p'.records = p.records ∧ Looked kind caller.tenant id ref c p' r := by
  obtain ⟨material, p₁, well, -⟩ := run_payload_held message tries holds
  obtain ⟨e, rfl, read⟩ | ⟨observed, _, read, ended⟩ | never := h.bindExcept well
  · obtain ⟨records, -, looked⟩ := fails_payload_held holds read
    exact ⟨records, looked⟩
  · obtain ⟨records, active, looked⟩ := fails_payload_held holds read
    simp only [active observed rfl, reduceCtorEq, if_false] at ended
    obtain ⟨rfl, rfl⟩ := Prod.mk.inj ended
    exact ⟨records, looked⟩
  · cases never

theorem fails_observeLast {r : Except Error (Option Observation)}
    (holds : p.Holds kind caller.tenant id ref)
    (h : FailsOnce (answer message)
      ((Action.custodian (Action.keystore tries kind)).observeLast caller id whole).run p c r p') :
    p'.records = p.records ∧ Looked kind caller.tenant id ref c p' r := by
  cases whole with
  | false => cases h
  | true =>
    obtain ⟨material, _, well, -⟩ := run_lastMaterial message tries holds
    have asked : FailsOnce (answer message) (some <$> (Action.custodian
      (Action.keystore tries kind)).lastMaterial caller id Retry.limit).run p c r p' := h
    rw [map_eq_pure_bind] at asked
    obtain ⟨e, rfl, first⟩ | ⟨observed, _, first, ended⟩ | never := asked.bindExcept well
    · obtain ⟨records, looked⟩ := fails_lastMaterial holds first
      cases looked with
      | failed still harmless => exact ⟨records, .failed still harmless⟩
    · obtain ⟨records, looked⟩ := fails_lastMaterial holds first
      obtain ⟨rfl, rfl⟩ := Prod.mk.inj ended
      cases looked with
      | seen still => exact ⟨records, .seen still⟩
      | lost lost hinders => exact ⟨records, .lost lost hinders⟩
    · cases never

/-! ## One removal -/

theorem run_mark (message : String) (there : p.records.get caller.tenant id = some s) :
    ∃ gone records, (Action.catalog.delete caller id).run.run (answer message) p =
        (.ok gone, { p with records := records }) ∧
      records.get caller.tenant id = some gone ∧ gone.deleted = true ∧ gone.phase = .destroyed := by
  let gone := { s with deleted := true, phase := .destroyed }
  let records := p.records.put (caller.tenant, id) gone
  have deleted : p.records.delete caller.tenant id = (.ok gone, records) := by
    unfold Catalog.Records.get at there
    unfold Catalog.Records.delete
    rw [there]
  refine ⟨gone, records, ?_, Keyed.lookup_put_self, rfl, rfl⟩
  change ((p.records.delete caller.tenant id).1,
    { p with records := (p.records.delete caller.tenant id).2 }) = _
  rw [deleted]

/-- What a removal goes on with once the material has been seen, if it is asked for. -/
def proceed (k : Keystore Action) (caller : Caller) (id : String) (seen : Option Observation) :
    Action (Except Error (Option Secret) × Ledger Action) := do
  let (result, ledger) ← k.delete caller id .empty
  match result with
  | .error error => return (.error error, ledger)
  | .ok () =>
    let deleted ← (Action.catalog.delete caller id).run
    return (deleted.map fun deleted => seen.map (Custodian.farewell deleted), ledger)

/-- Once the material has been given up, the record is marked. -/
theorem run_proceed (seen : Option Observation)
    (deleted : (k.delete caller id .empty).run (answer message) p = ((.ok (), ledger), p₁))
    (cleared : p₁.Cleared caller.tenant id ref) (there : p₁.records.get caller.tenant id = some s) :
    ∃ last p', (proceed k caller id seen).run (answer message) p = ((.ok last, ledger), p') ∧
      p'.Removed caller.tenant id ref := by
  obtain ⟨gone, records, marked, found, marks⟩ := run_mark message there
  refine ⟨seen.map (Custodian.farewell gone), { p₁ with records := records }, ?_,
    ⟨cleared.given, cleared.missing⟩, gone, found, marks⟩
  unfold proceed
  rw [run_bind, deleted]
  dsimp only
  rw [run_bind, marked]
  rfl

theorem run_proceed_refused (seen : Option Observation)
    (refused : (k.delete caller id .empty).run (answer message) p = ((.error error, ledger), p')) :
    (proceed k caller id seen).run (answer message) p = ((.error error, ledger), p') := by
  unfold proceed
  rw [run_bind, refused]
  rfl

theorem run_proceed_held (message : String) (tries : Nat) (seen : Option Observation)
    (holds : p.Holds kind caller.tenant id ref)
    (there : p.records.get caller.tenant id = some s) :
    ∃ last p', (proceed (Action.keystore tries kind) caller id seen).run (answer message) p =
      ((.ok last, .empty), p') ∧ p'.Removed caller.tenant id ref := by
  obtain ⟨p₁, deleted, cleared, same⟩ := run_delete_held message tries .empty holds
  have there₁ : p₁.records.get caller.tenant id = some s := by rw [same, there]
  exact run_proceed seen deleted cleared there₁

theorem run_destroy {y : Except Error (Option Secret) × Ledger Action}
    (looked : ((Action.custodian k).observeLast caller id whole).run.run (answer message) p = (.ok seen, p₁))
    (proceeded : (proceed k caller id seen).run (answer message) p₁ = (y, p')) :
    ((Action.custodian k).destroy caller id whole).run.run (answer message) p = (y.1, p') := by
  have removed : ((Action.custodian k).remove caller id whole .empty).run (answer message) p = (y, p') := by
    refine (run_bind _ _ _ _).trans ?_
    rw [looked]
    exact proceeded
  refine run_counted ?_
  rw [run_bind, removed]
  rfl

theorem run_destroy_unseen (looked : ((Action.custodian k).observeLast caller id whole).run.run
    (answer message) p = (.error error, p')) :
    ((Action.custodian k).destroy caller id whole).run.run (answer message) p = (.error error, p') := by
  have removed : ((Action.custodian k).remove caller id whole .empty).run (answer message) p =
      ((.error error, .empty), p') := by
    refine (run_bind _ _ _ _).trans ?_
    rw [looked]
    rfl
  refine run_counted ?_
  rw [run_bind, removed]
  rfl

theorem run_destroy_held (holds : p.Holds kind caller.tenant id ref)
    (there : p.records.get caller.tenant id = some s) :
    ∃ last p', ((Action.custodian (Action.keystore tries kind)).destroy caller id whole).run.run
      (answer message) p = (.ok last, p') ∧ p'.Removed caller.tenant id ref := by
  obtain ⟨seen, p₁, looked, still, same⟩ := run_observeLast message tries whole holds
  have there₁ : p₁.records.get caller.tenant id = some s := by rw [same, there]
  obtain ⟨last, p', proceeded, removed⟩ := run_proceed_held message tries seen still there₁
  exact ⟨last, p', run_destroy looked proceeded, removed⟩

theorem run_destroy_emptied (emptied : p.Emptied .memory caller.tenant id ref)
    (there : p.records.get caller.tenant id = some s) :
    ∃ last p', ((Action.custodian (Action.keystore tries .memory)).destroy caller id false).run.run
      (answer message) p = (.ok last, p') ∧ p'.Removed caller.tenant id ref := by
  obtain ⟨p₁, deleted, cleared, same⟩ := run_delete_emptied message tries .empty emptied
  have there₁ : p₁.records.get caller.tenant id = some s := by rw [same, there]
  obtain ⟨last, p', proceeded, removed⟩ := run_proceed none deleted cleared there₁
  exact ⟨last, p', run_destroy rfl proceeded, removed⟩

/-- Material that cannot be come by keeps its record. -/
theorem run_destroy_missing (message : String) (tries : Nat) (whole : Bool)
    (missing : p.Missing kind caller.tenant id ref)
    (stuck : p.Emptied kind caller.tenant id ref → kind = .barbican ∨ whole = true) :
    ∃ error p', ((Action.custodian (Action.keystore tries kind)).destroy caller id whole).run.run
        (answer message) p = (.error error, p') ∧ p'.records = p.records ∧
      (p' = p ∨ p.Emptied kind caller.tenant id ref ∧ p'.Emptied kind caller.tenant id ref) := by
  cases whole with
  | true =>
    obtain ⟨error, p', looked, kept⟩ := run_observeLast_missing message tries missing
    exact ⟨error, p', run_destroy_unseen looked, kept⟩
  | false =>
    obtain ⟨error, refused⟩ := run_delete_missing message tries .empty missing fun emptied =>
      (stuck emptied).resolve_right nofun
    exact ⟨error, p, run_destroy rfl (run_proceed_refused none refused), rfl, .inl rfl⟩

/-! ## A removal in which a call fails -/

/-- Where a removal leaves off that ends with an error because the call `c` fails. -/
inductive LeftOff (kind : Settings.KeystoreKind) (tenant : Tenant) (id ref : String) (p : Plant) (c : Call) :
    Prop
  | held (h : p.Holds kind tenant id ref) (harmless : c.hinders .barbican true = false)
  | emptied (h : p.Emptied kind tenant id ref) (same : c = .deleteEntry tenant id)
  | cleared (h : p.Cleared tenant id ref) (hinders : c.hinders .memory false = true)
  | lost (h : p.Lost kind tenant id) (hinders : c.hinders .memory false = true)

theorem fails_proceed {y : Except Error (Option Secret) × Ledger Action}
    (holds : p.Holds kind caller.tenant id ref) (there : p.records.get caller.tenant id = some s)
    (h : FailsOnce (answer message) (proceed (Action.keystore tries kind) caller id seen) p c y p')
    (failed : y.1 = .error error) :
    p'.records = p.records ∧ LeftOff kind caller.tenant id ref p' c := by
  obtain ⟨⟨r, ledger⟩, p₁, deleting, ended⟩ | marking := h.bind
  · obtain ⟨-, records, outcome⟩ := fails_delete_held holds deleting
    cases r with
    | error _ =>
      obtain ⟨rfl, rfl⟩ := Prod.mk.inj ended
      obtain same | ⟨-, ⟨rfl, harmless⟩ | ⟨emptied, same⟩⟩ := outcome
      · cases same
      · exact ⟨records, .held holds harmless⟩
      · exact ⟨records, .emptied emptied same⟩
    | ok _ =>
      -- The entry is given up, so nothing is left that could fail.
      have there₁ : p₁.records.get caller.tenant id = some s := by rw [records, there]
      obtain ⟨gone, _, marked, -⟩ := run_mark message there₁
      dsimp only at ended
      rw [run_bind, marked] at ended
      obtain ⟨rfl, -⟩ := Prod.mk.inj ended
      cases failed
  · obtain ⟨p₁, deleted, cleared, records⟩ := run_delete_held message tries .empty holds
    rw [deleted] at marking
    obtain ⟨_, _, asked, ended⟩ | never := marking.bind
    · obtain ⟨-, rfl, rfl⟩ := asked.make
      obtain ⟨-, rfl⟩ := Prod.mk.inj ended
      exact ⟨records, .cleared cleared rfl⟩
    · cases never

theorem fails_destroy (holds : p.Holds kind caller.tenant id ref)
    (there : p.records.get caller.tenant id = some s)
    (h : FailsOnce (answer message) ((Action.custodian (Action.keystore tries kind)).destroy caller id
      whole).run p c (.error error) p') :
    p'.records = p.records ∧ LeftOff kind caller.tenant id ref p' c := by
  obtain ⟨y, _, removing, ended⟩ | never := (fails_counted h).bind
  · obtain ⟨failed, rfl⟩ := Prod.mk.inj ended
    obtain ⟨r, p₁, looking, ended⟩ | proceeding := removing.bind
    · obtain ⟨same, looked⟩ := fails_observeLast holds looking
      have there₁ : p₁.records.get caller.tenant id = some s := by rw [same, there]
      cases looked with
      | failed still harmless =>
        obtain ⟨-, rfl⟩ := Prod.mk.inj ended
        exact ⟨same, .held still harmless⟩
      | @seen seen still =>
        obtain ⟨last, _, proceeded, -⟩ := run_proceed_held message tries seen still there₁
        obtain ⟨rfl, -⟩ := Prod.mk.inj (proceeded.symm.trans ended)
        cases failed
      | @lost seen lost hinders =>
        have missing : p₁.Missing kind caller.tenant id ref := .lost lost
        obtain ⟨e, refused⟩ := run_delete_missing message tries .empty missing fun _ => lost.networked
        obtain ⟨-, rfl⟩ := Prod.mk.inj ((run_proceed_refused seen refused).symm.trans ended)
        exact ⟨same, .lost lost hinders⟩
    · obtain ⟨seen, p₁, looked, still, same⟩ := run_observeLast message tries whole holds
      rw [looked] at proceeding
      obtain ⟨records, left⟩ := fails_proceed still (by rw [same, there]) proceeding failed
      exact ⟨records.trans same, left⟩
  · cases never

/-! ## The removals after it -/

/-- A removal that is hindered fails, and leaves off where it began. -/
theorem LeftOff.again (message : String) (tries : Nat)
    (left : LeftOff kind caller.tenant id ref p c) (hinders : c.hinders kind whole = true) :
    ∃ error p', ((Action.custodian (Action.keystore tries kind)).destroy caller id whole).run.run
        (answer message) p = (.error error, p') ∧ p'.records = p.records ∧
      LeftOff kind caller.tenant id ref p' c := by
  cases left with
  | held _ harmless =>
    have never : c.hinders kind whole = false := Call.hinders_of_harmless harmless
    cases never.symm.trans hinders
  | emptied emptied same =>
    subst same
    have stuck : kind = .barbican ∨ whole = true := by simpa [Call.hinders] using hinders
    obtain ⟨error, p', failed, records, rfl | ⟨-, still⟩⟩ := run_destroy_missing message tries
      whole (.emptied emptied) fun _ => stuck
    · exact ⟨error, p', failed, records, .emptied emptied rfl⟩
    · exact ⟨error, p', failed, records, .emptied still rfl⟩
  | cleared cleared hinders =>
    have missing : p.Missing kind caller.tenant id ref := .cleared cleared
    obtain ⟨error, p', failed, records, rfl | ⟨emptied, -⟩⟩ := run_destroy_missing message tries
      whole missing fun emptied => absurd cleared emptied.not_cleared
    · exact ⟨error, p', failed, records, .cleared cleared hinders⟩
    · exact absurd cleared emptied.not_cleared
  | lost lost hinders =>
    have missing : p.Missing kind caller.tenant id ref := .lost lost
    obtain ⟨error, p', failed, records, rfl | ⟨emptied, -⟩⟩ := run_destroy_missing message tries
      whole missing fun _ => .inl lost.networked
    · exact ⟨error, p', failed, records, .lost lost hinders⟩
    · exact absurd lost emptied.not_lost

/-- However often a removal is made that is hindered, it fails. -/
theorem LeftOff.performAll {removals : List Bool} (message : String) (tries : Nat)
    (left : LeftOff kind caller.tenant id ref p c)
    (hinders : ∀ whole ∈ removals, c.hinders kind whole = true) :
    ∃ replies p', ((Action.custodian (Action.keystore tries kind)).performAll
        (removals.map (.destroy caller id ·))).run (answer message) p = (replies, p') ∧
      (∀ reply ∈ replies, Failed reply) ∧ p'.records = p.records := by
  induction removals generalizing p with
  | nil => exact ⟨[], p, rfl, List.forall_mem_nil _, rfl⟩
  | cons whole removals ih =>
    obtain ⟨first, rest⟩ := List.forall_mem_cons.1 hinders
    obtain ⟨error, p₁, failed, records, left₁⟩ := left.again message tries first
    obtain ⟨replies, p', performed, all, records'⟩ := ih left₁ rest
    refine ⟨.error error :: replies, p', ?_, List.forall_mem_cons.2 ⟨⟨error, rfl⟩, all⟩,
      records'.trans records⟩
    have one : ((Action.custodian (Action.keystore tries kind)).perform
        (.destroy caller id whole)).run (answer message) p = (.error error, p₁) := by
      refine (run_bind _ _ _ _).trans ?_
      rw [failed]
      rfl
    unfold Custodian.performAll at performed ⊢
    rw [List.map_cons, List.mapM_cons, run_bind, one, run_bind, performed]
    rfl

/-- A removal has ended with an error because the call `c` failed, without effect. If that call does not
hinder another one, that completes it: nothing is left but the record, which says so. Otherwise all removals
fail from then on, and the record stays as it was. -/
theorem removal_completed_unless_hindered (holds : p.Holds kind caller.tenant id ref)
    (there : p.records.get caller.tenant id = some s)
    (failed : FailsOnce (answer message)
      ((Action.custodian (Action.keystore tries kind)).destroy caller id whole).run p c (.error error) p') :
    (∀ whole', c.hinders kind whole' = false → ∃ last p'',
      ((Action.custodian (Action.keystore tries kind)).destroy caller id whole').run.run (answer message) p' =
        (.ok last, p'') ∧ p''.Removed caller.tenant id ref) ∧
      ∀ removals : List Bool, (∀ whole' ∈ removals, c.hinders kind whole' = true) → ∃ replies p'',
        ((Action.custodian (Action.keystore tries kind)).performAll
            (removals.map (.destroy caller id ·))).run (answer message) p' = (replies, p'') ∧
          (∀ reply ∈ replies, Failed reply) ∧ p''.records = p.records := by
  obtain ⟨records, left⟩ := fails_destroy holds there failed
  have there' : p'.records.get caller.tenant id = some s := by rw [records, there]
  refine ⟨fun whole' free => ?_, fun removals hinders => ?_⟩
  · cases left with
    | held holds _ => exact run_destroy_held holds there'
    | emptied emptied same =>
      subst same
      obtain ⟨overVault, rfl⟩ : kind ≠ .barbican ∧ whole' = false := by simpa [Call.hinders] using free
      cases kind with
      | barbican => exact absurd rfl overVault
      | memory => exact run_destroy_emptied emptied there'
    | cleared _ hinders | lost _ hinders =>
      have never : c.hinders kind whole' = true := Call.hinders_of_always hinders
      cases never.symm.trans free
  · obtain ⟨replies, p'', performed, all, same⟩ := left.performAll message tries hinders
    exact ⟨replies, p'', performed, all, same.trans records⟩

/-- The plant that an engine leaves which no key has been ordered from. -/
def plantOf (e : Engine) : Plant := ⟨e.store, e.material, [], e.records⟩

/-- The removal of a secret fails because its record cannot be marked, an error after which trying again
may help. The next removal, in which nothing fails, does not find the entry: the record stays in use. -/
theorem unmarked_record_stays :
    let caller : Caller := ⟨⟨"s", "o"⟩, "c", none⟩
    let custodian := Action.custodian (Action.keystore 1 .barbican)
    let creation := (custodian.create caller { Secret.named "key" with payload := some ⟨"material"⟩ } false).run
    let created := plantOf (creation.run Supply.counting.answer {}).2
    let removal := (custodian.destroy caller "k" false).run
    let error : Error := .catalog "down" (some 503)
    let first := Action.runRefusing (answer "unknown") error 3 removal created
    let second := removal.run (answer "unknown") first.2
    (creation.run Supply.counting.answer {}).1.isOk = true ∧
      created.material.lookup "r" = some ⟨"material"⟩ ∧
      Action.callAt (answer "unknown") 3 removal created = some (.deleteRecord caller "k") ∧
      first.1 = .error error ∧ error.isRetryable = true ∧
      second.1 = .error (.noSecret "k") ∧
      (second.2.records.get caller.tenant "k").map (fun s => (s.deleted, s.phase)) =
        some (false, .activation) := by
  decide +kernel

/-- In memory, the removal of a secret fails because its entry cannot be given up. The next one finds the
entry still there, and completes the first. -/
theorem removal_completed_of_refused_entry :
    let caller : Caller := ⟨⟨"s", "o"⟩, "c", none⟩
    let custodian := Action.custodian (Action.keystore 1 .memory)
    let creation := (custodian.create caller { Secret.named "key" with payload := some ⟨"material"⟩ } false).run
    let created := plantOf (creation.run Supply.counting.answer {}).2
    let removal := (custodian.destroy caller "k" false).run
    let first := Action.runRefusing (answer "unknown") (.database "down") 2 removal created
    first.1 = .error (.database "down") ∧ first.2.material.lookup "r" = none ∧
      ∃ last p', removal.run (answer "unknown") first.2 = (.ok last, p') ∧
        p'.Removed caller.tenant "k" "r" := by
  intro caller custodian creation created removal first
  have error : first.1 = .error (.database "down") := by decide +kernel
  have emptied : first.2.material.lookup "r" = none := by decide +kernel
  have sound : created.store.Sound := by
    have added : created.store = ((Registry.Store.map []).add caller.tenant ⟨"k", some "r", none⟩).2 := rfl
    rw [added]
    exact Registry.Store.sound_add Registry.Store.sound_empty_map
  have stands : created.store.get caller.tenant "k" = .ok ⟨"k", some "r", none⟩ := by decide +kernel
  have held : created.material.lookup "r" = some ⟨"material"⟩ := by decide +kernel
  have holds : created.Holds .memory caller.tenant "k" "r" :=
    ⟨⟨sound, by decide +kernel, _, stands, .inl (by decide +kernel)⟩, _, held⟩
  have found : (created.records.get caller.tenant "k").isSome = true := by decide +kernel
  obtain ⟨s, there⟩ := Option.isSome_iff_exists.1 found
  have made : Action.callAt (answer "unknown") 2 removal created =
      some (.deleteEntry caller.tenant "k") := by decide +kernel
  have failed : FailsOnce (answer "unknown") removal created (.deleteEntry caller.tenant "k")
      (.error (.database "down")) first.2 := error ▸ FailsOnce.of_refusing made ⟨_, rfl⟩
  obtain ⟨completed, -⟩ := removal_completed_unless_hindered holds there failed
  exact ⟨error, emptied, completed false rfl⟩

end Plant

end KeyCustody
