import KeyCustody.Proofs.Custodian.Request
import KeyCustody.Proofs.Engine
import KeyCustody.Proofs.Secret.Limits

/-!
# Which creations reach the keystore

A secret that keeps the limits, its name trimmed, is handed to the keystore first. One that does not is refused as
malformed, and nothing is called but what counts the request. The collaborators may be any.
-/

namespace KeyCustody

open Program

variable {C : Type} {A : C → Type} {σ : Type}

/-- The keystore with a call before each creation that tells of it. -/
def Keystore.announcing (asks : Caller → Secret → C) (k : Keystore (Program C A)) : Keystore (Program C A) :=
  { k with create := fun caller s ledger => .call (asks caller s) fun _ => k.create caller s ledger }

namespace Custodian

variable {w : Program.World C A σ} {c : Custodian (Program C A)} {asks : Caller → Secret → C} {caller : Caller}
  {s : Secret} {whole : Bool} {y y' : σ} {t : List (Program.Event C A)} {r : Except Error Secret}

theorem run_create_invalid (broken : ¬({ s with name := Text.trim s.name } : Secret).Acceptable)
    (h : Run w (c.create caller s whole).run y t r y') :
    (∃ message field, r = .error (.validation message field)) ∧
      Run w (c.count (.operation "create" false)) y t () y' := by
  cases violated : ({ s with name := Text.trim s.name } : Secret).validateNew with
  | ok _ => exact absurd (Secret.validateNew_eq_ok.1 violated) broken
  | error error =>
    obtain ⟨message, field, rfl⟩ := Secret.validateNew_error violated
    obtain ⟨u, y₁, v, rfl, requested, counted⟩ := counted_iff.1 h
    rw [place_invalid violated, pure_bind] at requested
    obtain ⟨rfl, rfl, rfl⟩ := Run.pure_iff.1 requested
    exact ⟨⟨message, field, rfl⟩, counted⟩

theorem run_create_valid (kept : ({ s with name := Text.trim s.name } : Secret).Acceptable)
    (h : Run w (c.create caller s whole).run y t r y') :
    ∃ created y₁ u v, t = u ++ v ∧
      Run w (c.keystore.create caller { s with name := Text.trim s.name } .empty) y u created y₁ := by
  obtain ⟨rest, begins⟩ : ∃ rest, c.place caller s =
      c.keystore.create caller { s with name := Text.trim s.name } .empty >>= rest :=
    place_valid (Secret.validateNew_eq_ok.2 kept)
  obtain ⟨_, _, v, rfl, requested, -⟩ := counted_iff.1 h
  obtain ⟨_, _, _, _, rfl, placed, -⟩ := Run.bind_iff.1 requested
  rw [begins] at placed
  obtain ⟨u, created, y₁, _, rfl, made, -⟩ := Run.bind_iff.1 placed
  exact ⟨created, y₁, u, _, by rw [List.append_assoc, List.append_assoc], made⟩

/-- The keystore is asked to create exactly if the secret, its name trimmed, keeps all limits, and then before
anything else. Else the request is refused as malformed, and all that is called is its count. -/
theorem create_reaches_keystore_iff
    (apart : (c.count (.operation "create" false)).Keeps (fun call => ∀ caller s, call ≠ asks caller s)
      fun _ => True)
    (h : Run w (({ c with keystore := c.keystore.announcing asks } : Custodian (Program C A)).create caller s
      whole).run y t r y') :
    let trimmed : Secret := { s with name := Text.trim s.name }
    ((∃ v ∈ t, ∃ caller s, v.call = asks caller s) ↔ trimmed.Acceptable) ∧
      (trimmed.Acceptable → ∃ a y₁ u created y₂ v, t = ⟨asks caller trimmed, a⟩ :: (u ++ v) ∧
        w (asks caller trimmed) y a y₁ ∧ Run w (c.keystore.create caller trimmed .empty) y₁ u created y₂) ∧
      (¬trimmed.Acceptable → Run w (c.count (.operation "create" false)) y t () y' ∧
        ∃ error, r = .error error ∧ (∃ message field, error = .validation message field) ∧ error.status = 400) := by
  intro trimmed
  have first : trimmed.Acceptable → ∃ a y₁ u created y₂ v, t = ⟨asks caller trimmed, a⟩ :: (u ++ v) ∧
      w (asks caller trimmed) y a y₁ ∧ Run w (c.keystore.create caller trimmed .empty) y₁ u created y₂ := by
    intro kept
    obtain ⟨created, y₂, _, v, rfl, made⟩ := run_create_valid kept h
    cases made with
    | call answered rest => exact ⟨_, _, _, created, y₂, v, List.cons_append, answered, rest⟩
  have refused : ¬trimmed.Acceptable → Run w (c.count (.operation "create" false)) y t () y' ∧
      ∃ error, r = .error error ∧ (∃ message field, error = .validation message field) ∧ error.status = 400 := by
    intro broken
    obtain ⟨⟨message, field, rfl⟩, counted⟩ := run_create_invalid broken h
    exact ⟨counted, _, rfl, ⟨message, field, rfl⟩, rfl⟩
  refine ⟨⟨?_, fun kept => ?_⟩, first, refused⟩
  · rintro ⟨v, called, caller', s', same⟩
    by_contra broken
    exact apart.respects _ _ _ _ (refused broken).1 v called caller' s' same
  · obtain ⟨a, _, u, _, _, v, rfl, -⟩ := first kept
    exact ⟨_, List.mem_cons_self, caller, trimmed, rfl⟩

/-- A name of one character is refused, though it has two bytes and two blanks around it; a name of two is not. -/
theorem create_reaches_keystore_iff_characters :
    let caller : Caller := ⟨⟨"space", "org"⟩, "c", none⟩
    let asks : Caller → Secret → Call := fun caller s => .postSecret caller s.name ⟨""⟩ .text
    let c : Custodian Action := { Action.custodian (Action.memoryKeystore 1) with
      keystore := (Action.memoryKeystore 1).announcing asks }
    let t := fun name => (c.create caller (Secret.named name) true).run.trace Supply.counting.answer {}
    t " é " = [⟨.count (.operation "create" false), ()⟩] ∧
      ∃ a rest, t " éé " = ⟨.postSecret caller "éé" ⟨""⟩ .text, a⟩ :: rest := by
  intro caller asks c t
  have apart : (Action.count (.operation "create" false)).Keeps
      (fun call => ∀ caller s, call ≠ asks caller s) fun _ => True := ⟨fun _ _ => nofun, fun _ => trivial⟩
  have run : ∀ name, Run Supply.counting.world (c.create caller (Secret.named name) true).run {} (t name) _ _ :=
    fun name => Run.of_answers Supply.counting.world_answer (c.create caller (Secret.named name) true).run {}
  have reaches := fun name => @create_reaches_keystore_iff _ _ _ Supply.counting.world
    (Action.custodian (Action.memoryKeystore 1)) asks caller (Secret.named name) true {} _ _ _ apart (run name)
  constructor
  · have broken : ¬({ Secret.named " é " with name := Text.trim " é " } : Secret).Acceptable := by decide +kernel
    exact (Run.ask_iff.1 ((reaches " é ").2.2 broken).1).1
  · have kept : ({ Secret.named " éé " with name := Text.trim " éé " } : Secret).Acceptable := by decide +kernel
    have trimmed : Text.trim " éé " = "éé" := by decide +kernel
    obtain ⟨a, _, _, _, _, _, same, -⟩ := (reaches " éé ").2.1 kept
    exact ⟨a, _, trimmed ▸ same⟩

end Custodian

end KeyCustody
