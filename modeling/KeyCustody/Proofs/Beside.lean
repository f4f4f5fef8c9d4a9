import KeyCustody.Proofs.Custodian.Consistency
import KeyCustody.Proofs.Engine
import KeyCustody.Proofs.Keyed
import Mathlib.Tactic.SplitIfs

/-!
# Programs side by side

Two engines on which programs run one beside the other. What is outside their keystores is the same
throughout; how far their backings correspond is left to a link, which may depend on whose material
must not be handed out.
-/

namespace KeyCustody

namespace Program

variable {C : Type} {A : C → Type} {α β γ δ ε σ : Type} {answer answer' : σ → (c : C) → A c × σ}
  {P P' : σ → σ → Prop}

/-- From states related by `P`, the programs end with values and states related by `Q`. -/
def Pairs (answer answer' : σ → (c : C) → A c × σ) (P : σ → σ → Prop) (p : Program C A α)
    (p' : Program C A β) (Q : α → β → σ → σ → Prop) : Prop :=
  ∀ s s', P s s' →
    Q (p.run answer s).1 (p'.run answer' s').1 (p.run answer s).2 (p'.run answer' s').2

/-- Results that correspond: the same error, or values that do. -/
def Matching (V : α → β → Prop) : Except ε α → Except ε β → Prop
  | .ok a, .ok b => V a b
  | .error e, .error e' => e = e'
  | _, _ => False

theorem matching_eq {x x' : Except ε α} : Matching Eq x x' ↔ x = x' := by
  cases x <;> cases x' <;> simp [Matching]

namespace Pairs

variable {p : Program C A α} {p' : Program C A β} {Q Q' : α → β → σ → σ → Prop}
  {R : γ → δ → σ → σ → Prop}

theorem pure {a : α} {b : β} (h : ∀ s s', P s s' → Q a b s s') :
    Pairs answer answer' P (Pure.pure a) (Pure.pure b) Q := h

theorem mono (h : Pairs answer answer' P p p' Q) (implies : ∀ a b s s', Q a b s s' → Q' a b s s') :
    Pairs answer answer' P p p' Q' :=
  fun s s' start => implies _ _ _ _ (h s s' start)

theorem bind {f : α → Program C A γ} {f' : β → Program C A δ} (first : Pairs answer answer' P p p' Q)
    (rest : ∀ a b, Pairs answer answer' (Q a b) (f a) (f' b) R) :
    Pairs answer answer' P (p >>= f) (p' >>= f') R := by
  intro s s' start
  rw [run_bind, run_bind]
  exact rest _ _ _ _ (first s s' start)

/-- A part of what relates the states may not depend on them. -/
theorem of_and {V : Prop} (h : V → Pairs answer answer' P p p' Q) :
    Pairs answer answer' (fun s s' => V ∧ P s s') p p' Q :=
  fun s s' start => h start.1 s s' start.2

/-- What holds of the states may be used to say what stays true of them. -/
theorem given (h : ∀ s s', P s s' → ∃ I : σ → σ → Prop, I s s' ∧ Pairs answer answer' I p p' Q) :
    Pairs answer answer' P p p' Q := by
  intro s s' start
  obtain ⟨_, now, pairs⟩ := h s s' start
  exact pairs s s' now

theorem bind_of {V : α → β → Prop} {f : α → Program C A γ} {f' : β → Program C A δ}
    (first : Pairs answer answer' P p p' fun a b s s' => V a b ∧ P' s s')
    (rest : ∀ a b, V a b → Pairs answer answer' P' (f a) (f' b) R) :
    Pairs answer answer' P (p >>= f) (p' >>= f') R :=
  first.bind fun a b => of_and (rest a b)

theorem bindExcept {V : α → β → Prop} {W : γ → δ → Prop} {P'' : σ → σ → Prop}
    {x : ExceptT ε (Program C A) α} {x' : ExceptT ε (Program C A) β}
    {f : α → ExceptT ε (Program C A) γ} {f' : β → ExceptT ε (Program C A) δ}
    (first : Pairs answer answer' P x.run x'.run fun a b s s' => Matching V a b ∧ P' s s')
    (stops : ∀ s s', P' s s' → P'' s s')
    (rest : ∀ a b, V a b →
      Pairs answer answer' P' (f a).run (f' b).run fun a b s s' => Matching W a b ∧ P'' s s') :
    Pairs answer answer' P (x >>= f).run (x' >>= f').run
      fun a b s s' => Matching W a b ∧ P'' s s' := by
  rw [ExceptT.run_bind, ExceptT.run_bind]
  refine first.bind_of fun a b matching => ?_
  cases a with
  | error _ =>
    cases b with
    | error _ => exact pure fun _ _ start => ⟨matching, stops _ _ start⟩
    | ok _ => exact matching.elim
  | ok a =>
    cases b with
    | error _ => exact matching.elim
    | ok b => exact rest a b matching

theorem lift {V : α → β → Prop} (h : Pairs answer answer' P p p' fun a b s s' => V a b ∧ P' s s') :
    Pairs answer answer' P (ExceptT.lift p : ExceptT ε (Program C A) α).run
      (ExceptT.lift p' : ExceptT ε (Program C A) β).run fun a b s s' => Matching V a b ∧ P' s s' := by
  rw [ExceptT.run_lift, ExceptT.run_lift, map_eq_pure_bind, map_eq_pure_bind]
  exact h.bind_of fun a b corresponds => pure fun _ _ start => ⟨corresponds, start⟩

/-- Steps for the elements of a list, one after the other, each of which ends alike on both sides. -/
theorem mapM {ι : Type} {f f' : ι → Program C A α} {l : List ι}
    (each : ∀ i ∈ l, Pairs answer answer' P (f i) (f' i) fun a b s s' => a = b ∧ P s s') :
    Pairs answer answer' P (l.mapM f) (l.mapM f') fun a b s s' => a = b ∧ P s s' := by
  induction l with
  | nil => exact pure fun _ _ start => ⟨rfl, start⟩
  | cons i l ih =>
    obtain ⟨first, others⟩ := List.forall_mem_cons.1 each
    rw [List.mapM_cons, List.mapM_cons]
    refine first.bind_of fun a b same => (ih others).bind_of fun as bs all => ?_
    subst same all
    exact pure fun _ _ start => ⟨rfl, start⟩

end Pairs

end Program

/-! ## Records that withhold material -/

namespace Catalog.Records

variable {r : Records} {key key' : Tenant × String} {s : Secret}

/-- There is a record of this key, and its material must not be handed out. -/
def Withholds (r : Records) (key : Tenant × String) : Prop :=
  ∃ s, r.lookup key = some s ∧ s.extractable = false

theorem Withholds.put (h : r.Withholds key)
    (kept : ∀ old, r.lookup key' = some old → s.extractable = old.extractable) :
    (r.put key' s).Withholds key := by
  obtain ⟨old, found, withheld⟩ := h
  by_cases same : key = key'
  · subst key'
    exact ⟨s, Keyed.lookup_put_self, (kept old found).trans withheld⟩
  · exact ⟨old, (Keyed.lookup_put_other same).trans found, withheld⟩

variable {tenant : Tenant} {id : String} {now : Time.Instant}

theorem Withholds.create (h : r.Withholds key) : (r.create tenant now s).2.Withholds key := by
  obtain ⟨_, same⟩ | ⟨_, same, fresh, -⟩ := create_cases tenant now s r
  · rw [same]
    exact h
  · rw [same]
    exact h.put fun old found => by simp [fresh] at found

theorem Withholds.change {c : PhaseChange} (h : r.Withholds key) :
    (r.change tenant id c).2.Withholds key := by
  unfold Records.change
  cases found : r.lookup (tenant, id) with
  | none => exact h
  | some s =>
    refine h.put fun old found' => ?_
    obtain rfl := Option.some.inj (found.symm.trans found')
    rfl

theorem Withholds.delete (h : r.Withholds key) : (r.delete tenant id).2.Withholds key := by
  unfold Records.delete
  cases found : r.lookup (tenant, id) with
  | none => exact h
  | some s =>
    refine h.put fun old found' => ?_
    obtain rfl := Option.some.inj (found.symm.trans found')
    rfl

end Catalog.Records

/-! ## Engines -/

/-- How the backings of two engines correspond, given the keys whose material must not be handed out. -/
abbrev Link := (Tenant × String → Prop) → Backing → Backing → Prop

/-- A link that only becomes weaker as more is withheld. -/
def Link.Grows (link : Link) : Prop :=
  ∀ H H' b b', (∀ key, H key → H' key) → link H b b' → link H' b b'

namespace Engine

/-- Engines with these records, and with the same outside their backings. -/
structure Level (r : Catalog.Records) (e e' : Engine) : Prop where
  left : e.records = r
  right : e'.records = r
  tally : e.tally = e'.tally
  timed : e.timed = e'.timed

structure At (link : Link) (r : Catalog.Records) (e e' : Engine) : Prop extends Level r e e' where
  linked : link r.Withholds e.toBacking e'.toBacking

/-- Engines with these records, whose backings are as they were. -/
def Since (r : Catalog.Records) (before before' e e' : Engine) : Prop :=
  Level r e e' ∧ e.toBacking = before.toBacking ∧ e'.toBacking = before'.toBacking

/-- Engines that are the same outside their backings, which correspond. -/
def Alike (link : Link) (e e' : Engine) : Prop := At link e.records e e'

variable {link : Link} {r : Catalog.Records} {e e' : Engine}

theorem At.alike (h : At link r e e') : Alike link e e' := by
  obtain rfl := h.left
  exact h

end Engine

open Engine (At Alike Level)
open Program

section
variable {u u' : Supply} {link : Link} {r : Catalog.Records} {e e' : Engine} {α : Type}

/-- The programs of two engines side by side. -/
abbrev Supply.Pairs {β : Type} (u u' : Supply) (P : Engine → Engine → Prop) (p : Action α)
    (p' : Action β) (Q : α → β → Engine → Engine → Prop) : Prop :=
  Program.Pairs u.answer u'.answer P p p' Q

theorem answer_shared (times : u.time = u'.time) (grows : link.Grows) {c : Call}
    (shared : c.isShared = true) (h : Alike link e e') :
    (u.answer e c).1 = (u'.answer e' c).1 ∧ Alike link (u.answer e c).2 (u'.answer e' c).2 := by
  obtain ⟨b, r, tally, timed⟩ := e
  obtain ⟨b', r', tally', timed'⟩ := e'
  obtain ⟨⟨-, same, rfl, rfl⟩, linked⟩ := h
  obtain rfl : r' = r := same
  cases c with
  | getRecord | listRecords | totalRecords => exact ⟨rfl, ⟨rfl, rfl, rfl, rfl⟩, linked⟩
  | changeRecord =>
    exact ⟨rfl, ⟨rfl, rfl, rfl, rfl⟩, grows _ _ _ _ (fun _ => .change) linked⟩
  | deleteRecord =>
    exact ⟨rfl, ⟨rfl, rfl, rfl, rfl⟩, grows _ _ _ _ (fun _ => .delete) linked⟩
  | now => exact ⟨congrFun times _, ⟨rfl, rfl, rfl, rfl⟩, linked⟩
  | count => exact ⟨rfl, ⟨rfl, rfl, rfl, rfl⟩, linked⟩
  | _ => cases shared

/-- A program of shared calls ends alike on both engines. -/
theorem pairs_shared (times : u.time = u'.time) (grows : link.Grows) {p : Action α}
    (shared : p.Keeps (·.isShared = true) fun _ => True) :
    u.Pairs u' (Alike link) p p fun a a' e e' => a = a' ∧ Alike link e e' := by
  intro e e' h
  induction p generalizing e e' with
  | done a => exact ⟨rfl, h⟩
  | call c next ih =>
    obtain ⟨same, alike⟩ := answer_shared times grows shared.1 h
    have rest := ih (u.answer e c).1 (shared.2 _) _ _ alike
    rw [show (Program.call c next).run u'.answer e' =
      (next (u.answer e c).1).run u'.answer (u'.answer e' c).2 by rw [same]; rfl]
    exact rest

end

end KeyCustody
