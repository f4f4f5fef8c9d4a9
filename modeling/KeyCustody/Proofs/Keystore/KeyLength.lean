import KeyCustody.Proofs.Keystore.Filling
import KeyCustody.Proofs.Keystore.Stocking
import KeyCustody.Proofs.Keystore.Working
import KeyCustody.Proofs.Text.Base64
import Mathlib.Algebra.Order.Floor.Div
import Mathlib.GroupTheory.GroupAction.Ring

/-!
# How much material is generated

A keystore in memory generates as many bytes as the key has bits for, rounded up. The length is any number that the
text denotes and that is not too large. Zero is such a number: then there is nothing to keep, and it is kept.
-/

namespace KeyCustody.Keystore.InMemory

open Program
open Text (Denotes)

variable {tries : Nat} {caller : Caller} {id : String} {s : Secret} {x x' : Stock} {t : Trace}
  {created : Creation Action}

/-- As many bytes were drawn as were asked for. -/
def DrawsAsAsked (t : Trace) : Prop := ∀ n bytes, ⟨.drawBytes n, bytes⟩ ∈ t → bytes.length = n

theorem bytes_for (bitLength : Nat) : (bitLength + 7) / 8 = bitLength ⌈/⌉ 8 := rfl

/-- A key that is issued an identifier has been deposited, in as many bytes as it takes. -/
theorem run_create_generated {key : KeyParameters} (generated : s.material? = none)
    (given : s.keyParameters = .ok key) (issued : created.result = .ok id) (drawn : DrawsAsAsked t)
    (h : Run (Stock.world .clean) ((Action.memoryKeystore tries).create caller s .empty) x t created x') :
    ∃ ref bytes, bytes.length = key.bitLength ⌈/⌉ 8 ∧
      x.Deposits caller.tenant id ref ⟨Text.Base64.encode bytes⟩ x' := by
  rw [create_of_parameters generated given] at h
  obtain ⟨_, material, x₁, _, rfl, made, kept⟩ := Run.bind_iff.1 h
  obtain ⟨_, bytes, _, _, rfl, asked, passed⟩ := Run.bind_iff.1 made
  obtain ⟨rfl, idle⟩ := Run.ask_iff.1 asked
  obtain ⟨rfl, rfl, rfl⟩ := Run.pure_iff.1 passed
  obtain rfl := Stock.world_eq rfl idle
  obtain ⟨-, ref, deposits⟩ := run_keep_issued issued kept
  have length := drawn _ bytes (List.mem_append_left _ List.mem_cons_self)
  exact ⟨ref, bytes, length.trans (bytes_for _), deposits⟩

/-- A key is refused, and then nothing is called, unless the text of its length denotes a number that is not too
large. It is filled in either way. A key that is issued an identifier is kept in as many bytes as it has bits for,
rounded up, in base64; these are none exactly if the length is zero. -/
theorem generated_as_long_as_said (generated : s.material? = none) (drawn : DrawsAsAsked t)
    (h : Run (Stock.world .clean) ((Action.memoryKeystore tries).create caller s .empty) x t created x') :
    let text := (s.parameters.get? "bitLength").getD "256"
    s.FilledIn created.secret ∧
      ((∀ n < 2 ^ 32, ¬Denotes text n) → created.result = .error badBitLength ∧ t = [] ∧ x' = x) ∧
      ∀ id, created.result = .ok id → ∃ n ref bytes, Denotes text n ∧ n < 2 ^ 32 ∧ bytes.length = n ⌈/⌉ 8 ∧
        x.Deposits caller.tenant id ref ⟨Text.Base64.encode bytes⟩ x' ∧
        (Text.Base64.encode bytes = "" ↔ n = 0) := by
  intro text
  obtain ⟨change, own⟩ := isOf_inMemory.of_run h
  refine ⟨?_, ?_⟩
  · rw [own, Secret.filled_of_generated generated]
    exact Secret.filledIn_withKeyDefaults.enter change
  have said : (s.parameters.get? bitLengthName).getD "256" = text := rfl
  obtain ⟨key, given, denotes, less⟩ | ⟨refused, unread⟩ := Secret.keyParameters_cases said
  · refine ⟨fun unread => absurd denotes (unread _ less), fun id issued => ?_⟩
    obtain ⟨ref, bytes, length, deposits⟩ := run_create_generated generated given issued drawn h
    refine ⟨_, ref, bytes, denotes, less, length, deposits, ?_⟩
    rw [Text.Base64.encode_eq_empty, ← List.length_eq_zero_iff, length, ← bytes_for]
    omega
  · rw [create_of_refused generated refused] at h
    obtain ⟨rfl, rfl, rfl⟩ := Run.pure_iff.1 h
    exact ⟨fun _ => ⟨rfl, rfl, rfl⟩, nofun⟩

/-- Answers by which every reference and identifier is the same, and every byte is zero. -/
def monotonous : (c : Call) → c.Answer
  | .drawBytes n => List.replicate n 0
  | .drawIdentifier => "k"
  | .drawReference => "r"
  | c => Call.refused (.transport "down") c

theorem drawsAsAsked_monotonous {α : Type} {p : Action α} : DrawsAsAsked (p.trace (Stock.answer monotonous) x) := by
  intro n bytes member
  obtain ⟨_, same⟩ := mem_trace member
  have zeros : bytes = List.replicate n 0 := same
  rw [zeros, List.length_replicate]

/-- A key of a hundred bits takes thirteen bytes. -/
theorem generated_as_long_as_said_hundred :
    let s : Secret := { Secret.named "key" with parameters := .ofList [("bitLength", "+100")] }
    let y := ((Action.memoryKeystore 1).create ⟨⟨"s", "o"⟩, "c", none⟩ s .empty).run (Stock.answer monotonous)
      ⟨.map [], []⟩
    y.1.result = .ok "k" ∧ y.1.secret.parameters.get? "mode" = some "GCM" ∧
      ∃ ref bytes, bytes.length = 13 ∧ y.2.material = [(ref, ⟨Text.Base64.encode bytes⟩)] := by
  intro s y
  have run := Run.of_answers (Stock.world_answer (f := .clean) monotonous)
    ((Action.memoryKeystore 1).create ⟨⟨"s", "o"⟩, "c", none⟩ s .empty) ⟨.map [], []⟩
  have issued : y.1.result = .ok "k" := by decide +kernel
  have said : (s.parameters.get? "bitLength").getD "256" = "+100" := by decide +kernel
  obtain ⟨filled, -, kept⟩ := generated_as_long_as_said rfl drawsAsAsked_monotonous run
  obtain ⟨n, ref, bytes, denotes, less, length, ⟨-, put⟩, -⟩ := kept "k" issued
  have hundred : Text.natural? maxBitLength "+100" = some n :=
    Text.natural?_eq_some.2 ⟨said ▸ denotes, Nat.le_of_lt_succ less⟩
  have own : Text.natural? maxBitLength "+100" = some 100 := by decide +kernel
  obtain rfl : 100 = n := Option.some.inj (own.symm.trans hundred)
  refine ⟨issued, ?_, ref, bytes, length, put⟩
  exact filled.mode.trans (by decide +kernel)

/-- A key of no bits is accepted, and kept as nothing. -/
theorem no_bits_accepted :
    let s : Secret := { Secret.named "key" with parameters := .ofList [("bitLength", "0")] }
    ∃ t created x', Run (Stock.world .never)
        ((Action.memoryKeystore 1).create ⟨⟨"s", "o"⟩, "c", none⟩ s .empty) ⟨.map [], []⟩ t created x' ∧
      DrawsAsAsked t ∧ created.result = .ok "k" ∧ x'.material = [("r", ⟨""⟩)] ∧
      ¬∃ n, 0 < n ∧ n < 2 ^ 32 ∧ Denotes ((s.parameters.get? "bitLength").getD "256") n := by
  intro s
  have run := Run.of_answers (Stock.world_answer (f := .never) monotonous)
    ((Action.memoryKeystore 1).create ⟨⟨"s", "o"⟩, "c", none⟩ s .empty) ⟨.map [], []⟩
  have said : (s.parameters.get? "bitLength").getD "256" = "0" := by decide +kernel
  have zero : Text.natural? maxBitLength "0" = some 0 := by decide +kernel
  refine ⟨_, _, _, run, drawsAsAsked_monotonous, by decide +kernel, by decide +kernel, ?_⟩
  rintro ⟨n, positive, less, denotes⟩
  have read := Text.natural?_eq_some.2 ⟨said ▸ denotes, Nat.le_of_lt_succ less⟩
  obtain rfl : 0 = n := Option.some.inj (zero.symm.trans read)
  exact Nat.lt_irrefl 0 positive

end KeyCustody.Keystore.InMemory
