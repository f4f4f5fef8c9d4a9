import KeyCustody.Catalog.Records
import KeyCustody.Proofs.Run
import KeyCustody.Registry.Store

/-!
# Collaborators that may fail

A registry kept in a store and a catalog kept in memory, each with the ways its calls can fail. Calls
on any other collaborator leave them alone and are answered with anything.
-/

namespace KeyCustody

/-- An answer that is an error. -/
def Failed {α : Type} (x : Except Error α) : Prop := ∃ e, x = .error e

instance Failed.decidable {α : Type} (x : Except Error α) : Decidable (Failed x) :=
  match x with
  | .ok _ => isFalse nofun
  | .error e => isTrue ⟨e, rfl⟩

/-- How calls on a collaborator may fail. -/
inductive Fault where
  | never
  /-- A call that fails has had no effect. -/
  | clean
  /-- A call that fails may have had its effect. -/
  | any
  deriving DecidableEq, Repr

namespace Fault

variable {α σ : Type}

/-- Whether a call with this outcome may be answered with `x` and leave `s'`. -/
def Admits (f : Fault) (outcome : Except Error α × σ) (s : σ) (x : Except Error α) (s' : σ) : Prop :=
  (x, s') = outcome ∨
    match f with
    | never => False
    | clean => Failed x ∧ s' = s
    | any => Failed x ∧ (s' = s ∨ s' = outcome.2)

variable {f : Fault} {outcome : Except Error α × σ} {s s' : σ} {x : Except Error α}

theorem Admits.ok {a : α} (h : f.Admits outcome s (.ok a) s') : outcome = (.ok a, s') := by
  rcases h with same | other
  · exact same.symm
  · cases f with
    | never => exact other.elim
    | clean | any => obtain ⟨⟨_, failed⟩, _⟩ := other; cases failed

/-- Where nothing fails, there is one answer. -/
theorem Admits.only (h : never.Admits outcome s x s') : (x, s') = outcome := h.resolve_right id

theorem Admits.once {x' : Except Error α} {s₁ : σ} (h : never.Admits outcome s x s')
    (h₁ : never.Admits outcome s x' s₁) : x = x' ∧ s' = s₁ :=
  Prod.mk.inj (h.only.trans h₁.only.symm)

theorem never_admits_iff : never.Admits outcome s x s' ↔ x = outcome.1 ∧ s' = outcome.2 := by
  constructor
  · intro h
    exact ⟨congrArg Prod.fst h.only, congrArg Prod.snd h.only⟩
  · rintro ⟨rfl, rfl⟩
    exact .inl rfl

theorem Admits.of_never (h : never.Admits outcome s x s') : f.Admits outcome s x s' := .inl h.only

/-- A failing call leaves the state, or what the call would have made of it. -/
theorem Admits.state (h : f.Admits outcome s x s') : s' = s ∨ s' = outcome.2 := by
  rcases h with same | other
  · exact .inr (congrArg Prod.snd same)
  · cases f with
    | never => exact other.elim
    | clean => exact .inl other.2
    | any => exact other.2

/-- A lookup leaves the state alone. -/
theorem Admits.lookup {found : Except Error α} (h : f.Admits (found, s) s x s') :
    s' = s ∧ (x = found ∨ Failed x) := by
  refine ⟨h.state.elim id id, ?_⟩
  rcases h with same | other
  · exact .inl (congrArg Prod.fst same)
  · cases f with
    | never => exact other.elim
    | clean | any => exact .inr other.1

/-- What is admitted is admitted as seen through a part of the state. -/
theorem Admits.map {τ : Type} {g : σ → τ} {seen : Except Error α × τ} (same : seen = (outcome.1, g outcome.2))
    (h : f.Admits outcome s x s') : f.Admits seen (g s) x (g s') := by
  subst same
  rcases h with rfl | other
  · exact .inl rfl
  · cases f with
    | never => exact other.elim
    | clean => exact .inr ⟨other.1, congrArg g other.2⟩
    | any => exact .inr ⟨other.1, other.2.imp (congrArg g) (congrArg g)⟩

theorem Admits.map_lookup {τ : Type} {g : σ → τ} {found seen : Except Error α} (same : seen = found)
    (h : f.Admits (found, s) s x s') : f.Admits (seen, g s) (g s) x (g s') :=
  h.map (congrArg (·, g s) same)

/-- A part of the state that the outcome leaves is left. -/
theorem Admits.kept {τ : Type} {g : σ → τ} (same : g outcome.2 = g s) (h : f.Admits outcome s x s') :
    g s' = g s := by
  rcases h.state with rfl | rfl
  · rfl
  · exact same

/-- A call that fails leaves the state, if a failing outcome does. -/
theorem Admits.error {error : Error} (h : clean.Admits outcome s (.error error) s')
    (keeps : ∀ error, outcome.1 = .error error → outcome.2 = s) : s' = s := by
  rcases h with same | other
  · rw [← keeps error (congrArg Prod.fst same).symm, ← same]
  · exact other.2

end Fault

/-- The answers of collaborators of which none does anything. -/
def Call.refused (error : Error) : (c : Call) → c.Answer
  | .addEntry .. | .getEntry .. | .updateEntry .. | .deleteEntry .. => .error error
  | .createRecord .. | .getRecord .. | .changeRecord .. | .deleteRecord .. => .error error
  | .listRecords .. | .totalRecords .. => .error error
  | .postSecret .. | .postOrder .. | .checkOrder .. | .getPayload .. => .error error
  | .deleteSecret .. | .deleteOrder .. => .error error
  | .putMaterial .. | .dropMaterial .. | .count _ => ()
  | .findMaterial _ => none
  | .drawIdentifier | .drawReference => ""
  | .drawBytes _ => []
  | .now => ⟨0, 0⟩

/-- The registry is kept in a store. -/
def Registry.Store.world (f : Fault) : World Store
  | .addEntry tenant e, s, x, s' => f.Admits (s.add tenant e) s x s'
  | .getEntry tenant id, s, x, s' => f.Admits (s.get tenant id, s) s x s'
  | .updateEntry tenant e, s, x, s' => f.Admits (s.update tenant e) s x s'
  | .deleteEntry tenant id, s, x, s' => f.Admits (s.delete tenant id) s x s'
  | _, s, _, s' => s' = s

theorem Registry.Store.world_of_never {f : Fault} {c : Call} {s s' : Store} {x : c.Answer}
    (h : Store.world .never c s x s') : Store.world f c s x s' := by
  cases c with
  | addEntry | getEntry | updateEntry | deleteEntry => exact Fault.Admits.of_never h
  | _ => exact h

/-- What a store answers where the answers to other calls are given. -/
def Registry.Store.answer (others : (c : Call) → c.Answer) (s : Store) :
    (c : Call) → c.Answer × Store
  | .addEntry tenant e => s.add tenant e
  | .getEntry tenant id => (s.get tenant id, s)
  | .updateEntry tenant e => s.update tenant e
  | .deleteEntry tenant id => s.delete tenant id
  | c => (others c, s)

theorem Registry.Store.world_answer {f : Fault} (others : (c : Call) → c.Answer) (s : Store)
    (c : Call) : Store.world f c s (s.answer others c).1 (s.answer others c).2 := by
  cases c with
  | addEntry | getEntry | updateEntry | deleteEntry => exact .inl rfl
  | _ => rfl

/-- The catalog is kept in memory; `now` is when a record that has no date is created. -/
def Catalog.Records.world (f : Fault) : World Records
  | .createRecord caller s, r, x, r' => ∃ now, f.Admits (r.create caller.tenant now s) r x r'
  | .getRecord caller id, r, x, r' => f.Admits (.ok (r.get caller.tenant id), r) r x r'
  | .changeRecord caller id c, r, x, r' => f.Admits (r.change caller.tenant id c) r x r'
  | .deleteRecord caller id, r, x, r' => f.Admits (r.delete caller.tenant id) r x r'
  | .listRecords caller q, r, x, r' => f.Admits (.ok (r.list caller.tenant q), r) r x r'
  | .totalRecords caller _, r, x, r' => f.Admits (.ok (r.total caller.tenant), r) r x r'
  | _, r, _, r' => r' = r

/-- What records answer where the answers to other calls are given; it is always the same time. -/
def Catalog.Records.answer (others : (c : Call) → c.Answer) (r : Records) :
    (c : Call) → c.Answer × Records
  | .createRecord caller s => r.create caller.tenant (others .now) s
  | .getRecord caller id => (.ok (r.get caller.tenant id), r)
  | .changeRecord caller id c => r.change caller.tenant id c
  | .deleteRecord caller id => r.delete caller.tenant id
  | .listRecords caller q => (.ok (r.list caller.tenant q), r)
  | .totalRecords caller _ => (.ok (r.total caller.tenant), r)
  | c => (others c, r)

theorem Catalog.Records.world_answer {f : Fault} (others : (c : Call) → c.Answer) (r : Records)
    (c : Call) : Records.world f c r (r.answer others c).1 (r.answer others c).2 := by
  cases c with
  | createRecord => exact ⟨_, .inl rfl⟩
  | getRecord | changeRecord | deleteRecord | listRecords | totalRecords => exact .inl rfl
  | _ => rfl

end KeyCustody
