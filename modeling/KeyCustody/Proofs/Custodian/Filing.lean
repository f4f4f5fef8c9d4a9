import KeyCustody.Proofs.Custodian.Frame
import KeyCustody.Proofs.Engine
import KeyCustody.Proofs.Keystore.Filling
import KeyCustody.Proofs.Keystore.Frame
import KeyCustody.Proofs.Plant

/-!
# What is handed to the catalog

A creation hands the catalog the secret that was submitted, its name trimmed and its key filled in. The limits
are looked at before: the record keeps them all, but what is filled in may be one or two parameters too many.
-/

namespace KeyCustody.Custodian

open Keystore (Creation)
open Program

variable {σ : Type} {w : World σ} {y y' : σ} {tries : Nat} {kind : Settings.KeystoreKind} {caller : Caller}
  {s : Secret} {whole : Bool} {t : Trace} {r : Except Error Secret}

/-- A call that may be any, but for one that records something else than the secret, filled in. -/
def Files (caller : Caller) (s : Secret) (call : Call) : Prop :=
  ∀ recorder record, call = .createRecord recorder record → recorder = caller ∧
    ∃ id created change, record = { s.filled.enter change with id := id, creation := created }

theorem files_offCatalog {call : Call} (off : call.isOnCatalog = false) : Files caller s call := by
  rintro _ _ rfl
  cases off

theorem files_place :
    ((Action.custodian (Action.keystore tries kind)).place caller s).Keeps
      (Files caller { s with name := Text.trim s.name }) fun _ => True := by
  have either : Action.keystore tries kind = Action.memoryKeystore tries ∨
      Action.keystore tries kind = Action.barbicanKeystore tries := by
    cases kind with
    | barbican => exact .inr rfl
    | memory => exact .inl rfl
  unfold place
  generalize { s with name := Text.trim s.name : Secret } = s
  cases valid : s.validateNew with
  | error _ =>
    simp only [valid]
    exact trivial
  | ok _ =>
    simp only [valid]
    have creates := ((Keystore.apart_of_either either).create caller s).and (Keystore.isOf_either either)
    refine (creates.widen fun _ calls => files_offCatalog calls.1).bind ?_
    rintro created ⟨fits, change, own⟩
    have undone : ∀ operation, ((Action.custodian (Action.keystore tries kind)).rollBack operation
        created.ledger).Keeps (Files caller s) fun _ => True :=
      fun _ => (keeps_rollBack (fun _ => rfl) fits.undo).widen fun _ => files_offCatalog
    cases created.result with
    | error _ => exact (undone _).bind fun _ _ => trivial
    | ok id =>
      refine ⟨files_offCatalog rfl, fun now => ⟨?_, fun x => ?_⟩⟩
      · rintro _ _ ⟨⟩
        exact ⟨rfl, id, some now, change, by rw [own]⟩
      · cases x with
        | error _ => exact (undone _).bind fun _ _ => trivial
        | ok _ => exact trivial

/-- The limits look at neither the phase nor the identifier and the date. -/
theorem withinLimits_recorded {change : PhaseChange} {id : String} {created : Option Time.Instant} :
    ({ s.enter change with id := id, creation := created } : Secret).WithinLimits ↔ s.WithinLimits :=
  ⟨fun ⟨name, description, tags, parameters, notes⟩ => ⟨name, description, tags, parameters, notes⟩,
    fun ⟨name, description, tags, parameters, notes⟩ => ⟨name, description, tags, parameters, notes⟩⟩

/-- What is recorded is what was accepted, filled in. -/
theorem filed_of_run {recorder : Caller} {record : Secret} {x : Except Error Secret}
    (h : Run w ((Action.custodian (Action.keystore tries kind)).create caller s whole).run y t r y')
    (filed : ⟨.createRecord recorder record, x⟩ ∈ t) :
    let trimmed : Secret := { s with name := Text.trim s.name }
    trimmed.WithinLimits ∧ recorder = caller ∧
      ∃ id created change, record = { trimmed.filled.enter change with id := id, creation := created } := by
  obtain ⟨u, _, rfl, requested, -⟩ := run_counted_iff.1 h
  obtain ⟨u, _, _, _, rfl, placed, passed⟩ := Run.bind_iff.1 requested
  obtain ⟨rfl, -⟩ := Run.pure_iff.1 passed
  rw [List.append_nil] at filed
  obtain filed | counted := List.mem_append.1 filed
  swap
  · cases List.mem_singleton.1 counted
  refine ⟨?_, files_place.respects _ _ _ _ placed _ filed _ _ rfl⟩
  cases valid : ({ s with name := Text.trim s.name } : Secret).validateNew with
  | ok _ => exact (Secret.validateNew_eq_ok.1 valid).toWithinLimits
  | error _ =>
    rw [place_invalid valid] at placed
    obtain ⟨rfl, -⟩ := Run.pure_iff.1 placed
    cases filed

/-- A creation that succeeds has recorded its secret. -/
theorem filed_of_created {last : Secret}
    (h : Run w ((Action.custodian (Action.keystore tries kind)).create caller s whole).run y t (.ok last) y') :
    ∃ recorder record x, ⟨.createRecord recorder record, x⟩ ∈ t := by
  obtain ⟨u, _, rfl, requested, -⟩ := run_counted_iff.1 h
  obtain ⟨_, ⟨result, ledger⟩, _, _, rfl, placed, passed⟩ := Run.bind_iff.1 requested
  obtain ⟨rfl, same, -⟩ := Run.pure_iff.1 passed
  cases result with
  | error _ => cases same
  | ok stored =>
    obtain ⟨_, _, _, _, _, _, _, _, _, rfl, -, -, -, recorded, -⟩ := run_place_stored placed
    obtain ⟨rfl, -⟩ := Run.ask_iff.1 recorded
    exact ⟨_, _, _, List.mem_append_left _ (List.mem_append_left _
      (List.mem_append_right _ (List.mem_append_right _ (List.mem_singleton_self _))))⟩

/-- The request for a key with so many parameters, of which none says anything about the key. -/
def numbered (n : Nat) : Secret :=
  { Secret.named "key" with parameters := .ofList ((List.range n).map fun i => (toString i, "v")) }

/-- The record of such a request, on a supply that counts. -/
theorem filed_of_numbered {n : Nat} (accepted : (((Action.custodian (Action.keystore 1 .memory)).create
      ⟨⟨"space", "org"⟩, "c", none⟩ (numbered n) true).run.run Supply.counting.answer {}).1.isOk = true) :
    ∃ t last y recorder record x, Run Supply.counting.world
        ((Action.custodian (Action.keystore 1 .memory)).create ⟨⟨"space", "org"⟩, "c", none⟩ (numbered n) true).run
        {} t (.ok last) y ∧
      ⟨.createRecord recorder record, x⟩ ∈ t := by
  have run := Run.of_answers Supply.counting.world_answer ((Action.custodian (Action.keystore 1 .memory)).create
    ⟨⟨"space", "org"⟩, "c", none⟩ (numbered n) true).run {}
  generalize (((Action.custodian (Action.keystore 1 .memory)).create ⟨⟨"space", "org"⟩, "c", none⟩ (numbered n)
    true).run.run Supply.counting.answer {}).1 = result at accepted run
  cases result with
  | error _ => cases accepted
  | ok last =>
    obtain ⟨recorder, record, x, filed⟩ := filed_of_created run
    exact ⟨_, last, _, recorder, record, x, run, filed⟩

/-- Whatever is handed to the catalog keeps all limits of a record, but the number of its parameters is that of
those submitted with those filled in: it is valid exactly if that is not too many. -/
theorem recorded_within_limits_but_for_filled {recorder : Caller} {record : Secret} {x : Except Error Secret}
    (h : Run w ((Action.custodian (Action.keystore tries kind)).create caller s whole).run y t r y')
    (filed : ⟨.createRecord recorder record, x⟩ ∈ t) :
    recorder = caller ∧ ({ record with parameters := s.parameters } : Secret).WithinLimits ∧
      (∀ entry ∈ record.parameters.entries, entry.1.length ≤ 130 ∧ entry.2.length ≤ 130) ∧
      record.parameters.size = s.parameters.size + s.missing ∧
      (record.validate = .ok () ↔ s.parameters.size + s.missing ≤ 30) := by
  obtain ⟨kept, rfl, id, created, change, rfl⟩ := filed_of_run h filed
  have valid : ({ s with name := Text.trim s.name } : Secret).filled.WithinLimits ↔
      s.parameters.size + s.missing ≤ 30 := Secret.withinLimits_filled kept
  have entries : ∀ entry ∈ ({ s with name := Text.trim s.name } : Secret).filled.parameters.entries,
      entry.1.length ≤ 130 ∧ entry.2.length ≤ 130 := Secret.entries_filled kept.parameters.2
  have size : ({ s with name := Text.trim s.name } : Secret).filled.parameters.size =
      s.parameters.size + s.missing := Secret.size_filled
  refine ⟨rfl, ?_, entries, size, ?_⟩
  · rw [Secret.filled_others]
    exact ⟨kept.name, kept.description, kept.tags, kept.parameters, kept.notes⟩
  · rw [Secret.validate_eq_ok, ← valid, withinLimits_recorded]

/-- With two parameters filled in beside twenty-eight, the record is valid. -/
theorem recorded_within_limits_of_twenty_eight :
    ∃ t last y recorder record x, Run Supply.counting.world
        ((Action.custodian (Action.keystore 1 .memory)).create ⟨⟨"space", "org"⟩, "c", none⟩ (numbered 28) true).run
        {} t (.ok last) y ∧
      ⟨.createRecord recorder record, x⟩ ∈ t ∧ record.parameters.size = 30 ∧ record.validate = .ok () := by
  obtain ⟨t, last, y, recorder, record, x, run, filed⟩ := filed_of_numbered (n := 28) (by decide +kernel)
  obtain ⟨-, -, -, size, valid⟩ := recorded_within_limits_but_for_filled run filed
  have whole : (numbered 28).parameters.size + (numbered 28).missing = 30 := by decide +kernel
  exact ⟨t, last, y, recorder, record, x, run, filed, size.trans whole, valid.2 (Nat.le_of_eq whole)⟩

/-- Thirty parameters are accepted, and the two that are filled in make the record invalid. -/
theorem filled_record_breaks_limit :
    (numbered 30).validate = .ok () ∧ ∃ t last y recorder record x, Run Supply.counting.world
        ((Action.custodian (Action.keystore 1 .memory)).create ⟨⟨"space", "org"⟩, "c", none⟩ (numbered 30) true).run
        {} t (.ok last) y ∧
      ⟨.createRecord recorder record, x⟩ ∈ t ∧ record.validate ≠ .ok () := by
  obtain ⟨t, last, y, recorder, record, x, run, filed⟩ := filed_of_numbered (n := 30) (by decide +kernel)
  obtain ⟨-, -, id, created, change, rfl⟩ := filed_of_run run filed
  refine ⟨by decide +kernel, t, last, y, recorder, _, x, run, filed, fun valid => ?_⟩
  have few : (numbered 30).filled.parameters.size ≤ 30 := (Secret.validate_eq_ok.1 valid).parameters.1
  exact absurd few (by decide +kernel)

end KeyCustody.Custodian
