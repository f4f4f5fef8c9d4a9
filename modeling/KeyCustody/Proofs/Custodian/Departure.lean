import KeyCustody.Proofs.Custodian.Release

/-!
# Destructions that return the secret

The material is looked at before it is destroyed, up to four times while its key is being generated. It is
destroyed only after a look that found another phase, the record is marked only after that, and the material
returned is what that look found. The collaborators may be any.
-/

namespace KeyCustody.Custodian

open Keystore (Observation)
open Program

variable {C : Type} {A : C → Type} {σ : Type}

section
variable (w : Program.World C A σ) (k : Keystore (Program C A)) (caller : Caller) (id : String)

/-- Looks, one after the other, that find the key being generated. -/
inductive Waits : Nat → σ → List (Program.Event C A) → σ → Prop
  | done (s : σ) : Waits 0 s [] s
  | again {n : Nat} {s s₁ s₂ : σ} {t₁ t₂ : List (Program.Event C A)} {observed : Observation}
      (looked : Run w (k.payload caller id).run s t₁ (.ok observed) s₁)
      (generating : observed.phase = .preactivation) (others : Waits n s₁ t₂ s₂) :
      Waits (n + 1) s (t₁ ++ t₂) s₂

/-- How up to `limit` looks end: all find the key being generated, or the first that does not decides. -/
inductive Looks (limit : Nat) : σ → List (Program.Event C A) → Except Error Observation → σ → Prop
  | refused {s s' : σ} {t : List (Program.Event C A)} (waited : Waits w k caller id limit s t s') :
      Looks limit s t (.error stillGenerating) s'
  | decided {n : Nat} {s s₁ s₂ : σ} {t₁ t₂ : List (Program.Event C A)} {x : Except Error Observation}
      (few : n < limit) (waited : Waits w k caller id n s t₁ s₁)
      (looked : Run w (k.payload caller id).run s₁ t₂ x s₂)
      (settled : ∀ observed, x = .ok observed → observed.phase ≠ .preactivation) :
      Looks limit s (t₁ ++ t₂) x s₂

/-- How a destruction that returns the secret goes. -/
inductive Departs (c : Custodian (Program C A)) :
    σ → List (Program.Event C A) → Except Error (Option Secret) → σ → Prop
  | unseen {s s₁ : σ} {t₁ : List (Program.Event C A)} {error : Error}
      (looked : Looks w c.keystore caller id 4 s t₁ (.error error) s₁) :
      Departs c s t₁ (.error error) s₁
  | kept {s s₁ s₂ : σ} {t₁ t₂ : List (Program.Event C A)} {observed : Observation} {error : Error}
      {ledger : Ledger (Program C A)} (looked : Looks w c.keystore caller id 4 s t₁ (.ok observed) s₁)
      (destroyed : Run w (c.keystore.delete caller id .empty) s₁ t₂ (.error error, ledger) s₂) :
      Departs c s (t₁ ++ t₂) (.error error) s₂
  | unmarked {s s₁ s₂ s₃ : σ} {t₁ t₂ t₃ : List (Program.Event C A)} {observed : Observation} {error : Error}
      {ledger : Ledger (Program C A)} (looked : Looks w c.keystore caller id 4 s t₁ (.ok observed) s₁)
      (destroyed : Run w (c.keystore.delete caller id .empty) s₁ t₂ (.ok (), ledger) s₂)
      (marked : Run w (c.catalog.delete caller id).run s₂ t₃ (.error error) s₃) :
      Departs c s (t₁ ++ (t₂ ++ t₃)) (.error error) s₃
  | gone {s s₁ s₂ s₃ : σ} {t₁ t₂ t₃ : List (Program.Event C A)} {observed : Observation} {record : Secret}
      {ledger : Ledger (Program C A)} (looked : Looks w c.keystore caller id 4 s t₁ (.ok observed) s₁)
      (destroyed : Run w (c.keystore.delete caller id .empty) s₁ t₂ (.ok (), ledger) s₂)
      (marked : Run w (c.catalog.delete caller id).run s₂ t₃ (.ok record) s₃) :
      Departs c s (t₁ ++ (t₂ ++ t₃))
        (.ok (some { record with payload := if record.extractable then observed.payload else none })) s₃

end

section
variable {w : Program.World C A σ} {k : Keystore (Program C A)} {c : Custodian (Program C A)} {caller : Caller}
  {id : String} {left n : Nat} {s s₁ s' : σ} {t t₁ t₂ : List (Program.Event C A)} {x : Except Error Observation}
  {r : Except Error (Option Secret)} {observed : Observation}

theorem Looks.again (looked : Run w (k.payload caller id).run s t₁ (.ok observed) s₁)
    (generating : observed.phase = .preactivation) (others : Looks w k caller id left s₁ t₂ x s') :
    Looks w k caller id (left + 1) s (t₁ ++ t₂) x s' := by
  cases others with
  | refused waited => exact .refused (.again looked generating waited)
  | decided few waited last settled =>
    rw [← List.append_assoc]
    exact .decided (Nat.succ_lt_succ few) (.again looked generating waited) last settled

theorem Looks.at_once (looked : Run w (k.payload caller id).run s t x s')
    (settled : ∀ observed, x = .ok observed → observed.phase ≠ .preactivation) :
    Looks w k caller id (left + 1) s t x s' :=
  .decided left.succ_pos (.done s) looked settled

theorem looks_of_run (h : Run w (c.lastMaterial caller id left).run s t x s') :
    Looks w c.keystore caller id left s t x s' := by
  induction left generalizing s t with
  | zero =>
    obtain ⟨rfl, rfl, rfl⟩ := Run.throw_iff.1 h
    exact .refused (.done _)
  | succ left ih =>
    obtain ⟨error, rfl, looked⟩ | ⟨t₁, observed, s₁, t₂, rfl, looked, ended⟩ := Run.bindExcept_iff.1 h
    · exact .at_once looked nofun
    · by_cases generating : observed.phase = .preactivation
      · rw [if_pos generating] at ended
        exact .again looked generating (ih ended)
      · rw [if_neg generating] at ended
        obtain ⟨rfl, rfl, rfl⟩ := Run.pureExcept_iff.1 ended
        rw [List.append_nil]
        refine .at_once looked ?_
        rintro _ ⟨⟩
        exact generating

theorem run_lastMaterial_of_waits (waited : Waits w c.keystore caller id n s t₁ s₁)
    (rest : Run w (c.lastMaterial caller id left).run s₁ t₂ x s') :
    Run w (c.lastMaterial caller id (left + n)).run s (t₁ ++ t₂) x s' := by
  induction waited with
  | done => exact rest
  | again looked generating others ih =>
    rw [List.append_assoc]
    refine Run.bindExcept_iff.2 (.inr ⟨_, _, _, _, rfl, looked, ?_⟩)
    rw [if_pos generating]
    exact ih rest

theorem run_lastMaterial_settled (looked : Run w (c.keystore.payload caller id).run s t x s')
    (settled : ∀ observed, x = .ok observed → observed.phase ≠ .preactivation) :
    Run w (c.lastMaterial caller id (left + 1)).run s t x s' := by
  cases x with
  | error error => exact Run.bindExcept_iff.2 (.inl ⟨error, rfl, looked⟩)
  | ok observed =>
    refine Run.bindExcept_iff.2 (.inr ⟨t, observed, s', [], (List.append_nil t).symm, looked, ?_⟩)
    rw [if_neg (settled observed rfl)]
    exact .done _ _

theorem run_of_looks (h : Looks w c.keystore caller id left s t x s') :
    Run w (c.lastMaterial caller id left).run s t x s' := by
  cases h with
  | refused waited =>
    have run : Run w (c.lastMaterial caller id (0 + left)).run s (t ++ []) (.error stillGenerating) s' :=
      run_lastMaterial_of_waits waited (.done _ _)
    rwa [Nat.zero_add, List.append_nil] at run
  | @decided n _ _ _ t₁ t₂ _ few waited looked settled =>
    have run : Run w (c.lastMaterial caller id (left - (n + 1) + 1 + n)).run s (t₁ ++ t₂) x s' :=
      run_lastMaterial_of_waits waited (run_lastMaterial_settled looked settled)
    have whole : left - (n + 1) + 1 + n = left := by omega
    rwa [whole] at run

theorem run_lastMaterial_iff :
    Run w (c.lastMaterial caller id left).run s t x s' ↔ Looks w c.keystore caller id left s t x s' :=
  ⟨looks_of_run, run_of_looks⟩

theorem run_observeLast_iff {y : Except Error (Option Observation)} :
    Run w (c.observeLast caller id true).run s t y s' ↔
      ∃ x, y = x.map some ∧ Looks w c.keystore caller id 4 s t x s' := by
  rw [observeLast, if_pos rfl, ExceptT.run_map, Run.map_iff]
  simp only [run_lastMaterial_iff]
  exact Iff.rfl

theorem farewell_of_bare {record : Secret} (bare : record.payload = none) :
    farewell record observed =
      { record with payload := if record.extractable then observed.payload else none } := by
  unfold farewell
  by_cases may : record.extractable = true
  · rw [if_pos may, if_pos may]
  · rw [if_neg may, if_neg may, ← bare]

theorem departs_of_run (bare : ∀ record, Ran w (c.catalog.delete caller id).run (.ok record) t →
      record.payload = none) {ledger : Ledger (Program C A)}
    (h : Run w (c.remove caller id true .empty) s t (r, ledger) s') : Departs w caller id c s t r s' := by
  obtain ⟨t₁, o, s₁, _, rfl, seen, ended⟩ := Run.bind_iff.1 h
  obtain ⟨x, rfl, looked⟩ := run_observeLast_iff.1 seen
  cases x with
  | error error =>
    obtain ⟨rfl, same, rfl⟩ := Run.pure_iff.1 ended
    obtain ⟨rfl, -⟩ := Prod.mk.inj same
    rw [List.append_nil]
    exact .unseen looked
  | ok observed =>
    obtain ⟨t₂, ⟨y, _⟩, s₂, _, rfl, destroyed, ended⟩ := Run.bind_iff.1 ended
    cases y with
    | error error =>
      obtain ⟨rfl, same, rfl⟩ := Run.pure_iff.1 ended
      obtain ⟨rfl, -⟩ := Prod.mk.inj same
      rw [List.append_nil]
      exact .kept looked destroyed
    | ok _ =>
      obtain ⟨t₃, z, s₃, _, rfl, marked, ended⟩ := Run.bind_iff.1 ended
      obtain ⟨rfl, same, rfl⟩ := Run.pure_iff.1 ended
      obtain ⟨rfl, -⟩ := Prod.mk.inj same
      rw [List.append_nil] at bare ⊢
      cases z with
      | error error => exact .unmarked looked destroyed marked
      | ok record =>
        have none := bare record (Ran.of_run marked).right.right
        have gone := Departs.gone looked destroyed marked
        rw [← farewell_of_bare none] at gone
        exact gone

theorem run_of_departs (bare : ∀ record, Ran w (c.catalog.delete caller id).run (.ok record) t →
      record.payload = none) (h : Departs w caller id c s t r s') :
    ∃ ledger, Run w (c.remove caller id true .empty) s t (r, ledger) s' := by
  cases h with
  | unseen looked =>
    have seen := run_observeLast_iff.2 ⟨_, rfl, looked⟩
    exact ⟨_, Run.bind_iff.2 ⟨_, _, _, [], (List.append_nil _).symm, seen, .done _ _⟩⟩
  | kept looked destroyed =>
    have seen := run_observeLast_iff.2 ⟨_, rfl, looked⟩
    exact ⟨_, Run.bind_iff.2 ⟨_, _, _, _, rfl, seen,
      Run.bind_iff.2 ⟨_, _, _, [], (List.append_nil _).symm, destroyed, .done _ _⟩⟩⟩
  | unmarked looked destroyed marked =>
    have seen := run_observeLast_iff.2 ⟨_, rfl, looked⟩
    exact ⟨_, Run.bind_iff.2 ⟨_, _, _, _, rfl, seen, Run.bind_iff.2 ⟨_, _, _, _, rfl, destroyed,
      Run.bind_iff.2 ⟨_, _, _, [], (List.append_nil _).symm, marked, .done _ _⟩⟩⟩⟩
  | gone looked destroyed marked =>
    have seen := run_observeLast_iff.2 ⟨_, rfl, looked⟩
    rw [← farewell_of_bare (bare _ (Ran.of_run marked).right.right)]
    exact ⟨_, Run.bind_iff.2 ⟨_, _, _, _, rfl, seen, Run.bind_iff.2 ⟨_, _, _, _, rfl, destroyed,
      Run.bind_iff.2 ⟨_, _, _, [], (List.append_nil _).symm, marked, .done _ _⟩⟩⟩⟩

/-- A destruction that returns the secret looks at its material until a look fails or finds another phase than
preactivation, up to four times. If one fails, or all four find the key being generated, nothing is destroyed or
marked. Else the material is destroyed, then the record marked, each only if all before it went well; what is
returned is the record with the material of the last look, if it is extractable. -/
theorem run_destroy_iff_departs (bare : ∀ record, Ran w (c.catalog.delete caller id).run (.ok record) t →
      record.payload = none) :
    Run w (c.destroy caller id true).run s t r s' ↔
      ∃ t₁ s₁ t₂, t = t₁ ++ t₂ ∧ Departs w caller id c s t₁ r s₁ ∧
        Run w (c.count (.operation "delete" r.isOk)) s₁ t₂ () s' := by
  constructor
  · intro h
    obtain ⟨t₁, s₁, t₂, rfl, requested, counted⟩ := counted_iff.1 h
    obtain ⟨_, ⟨x, ledger⟩, _, _, rfl, removed, passed⟩ := Run.bind_iff.1 requested
    obtain ⟨rfl, rfl, rfl⟩ := Run.pure_iff.1 passed
    rw [List.append_nil] at bare ⊢
    exact ⟨_, _, t₂, rfl, departs_of_run (fun record ran => bare record ran.left) removed, counted⟩
  · rintro ⟨t₁, s₁, t₂, rfl, departs, counted⟩
    obtain ⟨ledger, removed⟩ := run_of_departs (fun record ran => bare record ran.left) departs
    exact counted_iff.2 ⟨t₁, s₁, t₂, rfl,
      Run.bind_iff.2 ⟨t₁, (r, ledger), s₁, [], (List.append_nil _).symm, removed, .done _ _⟩, counted⟩

end

/-- An order is pending at two looks and done at the third, and its material is returned. -/
theorem run_destroy_iff_departs_late :
    let caller : Caller := ⟨⟨"space", "org"⟩, "c", none⟩
    let record : Secret := { Secret.named "key" with id := "k", deleted := true, phase := .destroyed }
    let answer : Nat → (c : Call) → c.Answer × Nat
      | n, .getEntry .. => (.ok ⟨"k", none, some "order"⟩, n)
      | n, .checkOrder .. => (.ok (if n < 2 then .pending else .active "secret"), n + 1)
      | n, .getPayload .. => (.ok ⟨"material"⟩, n)
      | n, .updateEntry .. | n, .deleteSecret .. | n, .deleteEntry .. | n, .deleteOrder .. => (.ok (), n)
      | n, .deleteRecord .. => (.ok record, n)
      | n, c => (c.refused stillGenerating, n)
    let c := Action.custodian (Action.barbicanKeystore 1)
    let t := (c.destroy caller "k" true).run.trace answer 0
    let x := ((c.destroy caller "k" true).run.run answer 0).1
    x = .ok (some { record with payload := some ⟨"material"⟩ }) ∧
      ∃ t₁ s₁ t₂, t = t₁ ++ t₂ ∧ Departs (answering answer) caller "k" c 0 t₁ x s₁ ∧
        t₂ = [⟨.count (.operation "delete" true), ()⟩] := by
  intro caller record answer c t x
  have run : Run (answering answer) (c.destroy caller "k" true).run 0 t x _ :=
    Run.of_answers (fun _ _ => rfl) (c.destroy caller "k" true).run 0
  have bare : t.all answeredBare = true := by decide +kernel
  have reply : x = .ok (some { record with payload := some ⟨"material"⟩ }) := by decide +kernel
  have shows : ∀ r, Ran (answering answer) (c.catalog.delete caller "k").run (.ok r) t → r.payload = none :=
    fun _ => (showsNoMaterial_of_all bare).delete
  obtain ⟨t₁, s₁, t₂, same, departs, counted⟩ := (run_destroy_iff_departs shows).1 run
  obtain ⟨rfl, -⟩ := Run.ask_iff.1 counted
  exact ⟨reply, t₁, s₁, _, same, departs, by rw [reply]; rfl⟩

end KeyCustody.Custodian
