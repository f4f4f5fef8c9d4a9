import KeyCustody.Call
import Mathlib.Data.List.Forall2

/-!
# Runs of programs

A world says how a call may be answered in a state and what state that leaves; a run is one way a
program can end there, with the trace of its calls. What every run of a program keeps to, whatever
it is answered, is said of the program itself.
-/

namespace KeyCustody

namespace Program

variable {Call : Type} {Answer : Call → Type} {α β ε σ τ : Type}

/-- A call with the answer it got. -/
structure Event (Call : Type) (Answer : Call → Type) where
  call : Call
  answer : Answer call

/-- How a call may be answered in a state, and the state after it. -/
abbrev World (Call : Type) (Answer : Call → Type) (σ : Type) :=
  (c : Call) → σ → Answer c → σ → Prop

/-- The runs of a program: its trace, its value and the state it leaves. -/
inductive Run (w : World Call Answer σ) :
    Program Call Answer α → σ → List (Event Call Answer) → α → σ → Prop
  | done (a : α) (s : σ) : Run w (.done a) s [] a s
  | call {c : Call} {next : Answer c → Program Call Answer α} {x : Answer c} {s s₁ s₂ : σ}
      {t : List (Event Call Answer)} {a : α} (answered : w c s x s₁)
      (rest : Run w (next x) s₁ t a s₂) : Run w (.call c next) s (⟨c, x⟩ :: t) a s₂

/-- The calls of a program on a state that answers them. -/
def trace (answer : σ → (c : Call) → Answer c × σ) :
    Program Call Answer α → σ → List (Event Call Answer)
  | done _, _ => []
  | call c next, s => ⟨c, (answer s c).1⟩ :: (next (answer s c).1).trace answer (answer s c).2

theorem mem_trace {answer : σ → (c : Call) → Answer c × σ} {p : Program Call Answer α} {s : σ}
    {v : Event Call Answer} (h : v ∈ p.trace answer s) : ∃ s, v.answer = (answer s v.call).1 := by
  induction p generalizing s with
  | done a => cases h
  | call c next ih =>
    obtain rfl | later := List.mem_cons.1 h
    · exact ⟨s, rfl⟩
    · exact ih _ later

/-- The world of a state that answers every call in one way. -/
def answering (answer : σ → (c : Call) → Answer c × σ) : World Call Answer σ :=
  fun c s x s' => answer s c = (x, s')

namespace Run

variable {w : World Call Answer σ} {s s' : σ} {t : List (Event Call Answer)}

theorem done_iff {a b : α} :
    Run w (.done a : Program Call Answer α) s t b s' ↔ t = [] ∧ b = a ∧ s' = s := by
  constructor
  · intro h
    cases h
    exact ⟨rfl, rfl, rfl⟩
  · rintro ⟨rfl, rfl, rfl⟩
    exact .done _ _

theorem pure_iff {a b : α} :
    Run w (pure a : Program Call Answer α) s t b s' ↔ t = [] ∧ b = a ∧ s' = s :=
  done_iff

theorem ask_iff {c : Call} {x : Answer c} :
    Run w (ask c) s t x s' ↔ t = [⟨c, x⟩] ∧ w c s x s' := by
  constructor
  · intro h
    cases h with
    | call answered rest =>
      obtain ⟨rfl, rfl, rfl⟩ := done_iff.1 rest
      exact ⟨rfl, answered⟩
  · rintro ⟨rfl, answered⟩
    exact .call answered (.done _ _)

theorem bind_iff {p : Program Call Answer α} {f : α → Program Call Answer β} {b : β} :
    Run w (p >>= f) s t b s' ↔
      ∃ t₁ a s₁ t₂, t = t₁ ++ t₂ ∧ Run w p s t₁ a s₁ ∧ Run w (f a) s₁ t₂ b s' := by
  constructor
  · intro h
    induction p generalizing s t with
    | done a => exact ⟨[], a, s, t, rfl, .done a s, h⟩
    | call c next ih =>
      cases h with
      | call answered rest =>
        obtain ⟨t₁, a, s₁, t₂, rfl, first, last⟩ := ih _ rest
        exact ⟨_, a, s₁, t₂, rfl, .call answered first, last⟩
  · rintro ⟨t₁, a, s₁, t₂, rfl, first, last⟩
    induction first with
    | done => exact last
    | call answered _ ih => exact .call answered (ih last)

theorem map_iff {p : Program Call Answer α} {f : α → β} {b : β} :
    Run w (f <$> p) s t b s' ↔ ∃ a, b = f a ∧ Run w p s t a s' := by
  rw [map_eq_pure_bind, bind_iff]
  constructor
  · rintro ⟨t₁, a, s₁, t₂, rfl, first, last⟩
    obtain ⟨rfl, rfl, rfl⟩ := pure_iff.1 last
    exact ⟨a, rfl, by simpa using first⟩
  · rintro ⟨a, rfl, first⟩
    exact ⟨t, a, s', [], by simp, first, .done _ _⟩

/-- What is made of the value is made of it after the run. -/
theorem mapped_iff {p : Program Call Answer (Except ε α)} {f : α → β} {y : Except ε β} :
    Run w (do return (← p).map f) s t y s' ↔ ∃ x, y = x.map f ∧ Run w p s t x s' := by
  rw [← map_eq_pure_bind, map_iff]

/-- A run of a computation that may fail ends with its first part if that fails. -/
theorem bindExcept_iff {x : ExceptT ε (Program Call Answer) α}
    {f : α → ExceptT ε (Program Call Answer) β} {r : Except ε β} :
    Run w (x >>= f).run s t r s' ↔
      (∃ e, r = .error e ∧ Run w x.run s t (.error e) s') ∨
      ∃ t₁ a s₁ t₂, t = t₁ ++ t₂ ∧ Run w x.run s t₁ (.ok a) s₁ ∧ Run w (f a).run s₁ t₂ r s' := by
  rw [ExceptT.run_bind, bind_iff]
  constructor
  · rintro ⟨t₁, a, s₁, t₂, rfl, first, last⟩
    cases a with
    | ok a => exact .inr ⟨t₁, a, s₁, t₂, rfl, first, last⟩
    | error e =>
      obtain ⟨rfl, rfl, rfl⟩ := pure_iff.1 last
      exact .inl ⟨e, rfl, by simpa using first⟩
  · rintro (⟨e, rfl, first⟩ | ⟨t₁, a, s₁, t₂, rfl, first, last⟩)
    · exact ⟨t, .error e, s', [], by simp, first, .done _ _⟩
    · exact ⟨t₁, .ok a, s₁, t₂, rfl, first, last⟩

/-- A run of a computation that may fail ends well if both its parts do. -/
theorem bindExcept_ok_iff {x : ExceptT ε (Program Call Answer) α}
    {f : α → ExceptT ε (Program Call Answer) β} {b : β} :
    Run w (x >>= f).run s t (.ok b) s' ↔
      ∃ t₁ a s₁ t₂, t = t₁ ++ t₂ ∧ Run w x.run s t₁ (.ok a) s₁ ∧ Run w (f a).run s₁ t₂ (.ok b) s' := by
  rw [bindExcept_iff]
  constructor
  · rintro (⟨_, same, -⟩ | both)
    · cases same
    · exact both
  · exact .inr

theorem pureExcept_iff {a : α} {r : Except ε α} :
    Run w (pure a : ExceptT ε (Program Call Answer) α).run s t r s' ↔
      t = [] ∧ r = .ok a ∧ s' = s :=
  done_iff

theorem pureExcept_ok_iff {a b : α} :
    Run w (pure a : ExceptT ε (Program Call Answer) α).run s t (.ok b) s' ↔
      t = [] ∧ b = a ∧ s' = s := by
  rw [pureExcept_iff, Except.ok.injEq]

theorem throw_iff {e : ε} {r : Except ε α} :
    Run w (throw e : ExceptT ε (Program Call Answer) α).run s t r s' ↔
      t = [] ∧ r = .error e ∧ s' = s :=
  done_iff

/-- What cannot fail comes first; the rest may fail. -/
theorem bindLift_iff {p : Program Call Answer α} {f : α → ExceptT ε (Program Call Answer) β}
    {r : Except ε β} :
    Run w (ExceptT.lift p >>= f).run s t r s' ↔
      ∃ t₁ a s₁ t₂, t = t₁ ++ t₂ ∧ Run w p s t₁ a s₁ ∧ Run w (f a).run s₁ t₂ r s' := by
  rw [ExceptT.run_bind_lift, bind_iff]

/-- A state that answers every call as the world allows makes a run of a program. -/
theorem of_answers {answer : σ → (c : Call) → Answer c × σ}
    (allowed : ∀ s c, w c s (answer s c).1 (answer s c).2) (p : Program Call Answer α) (s : σ) :
    Run w p s (p.trace answer s) (p.run answer s).1 (p.run answer s).2 := by
  induction p generalizing s with
  | done a => exact .done a s
  | call c next ih => exact .call (allowed s c) (ih _ _)

theorem of_eval {answer : σ → (c : Call) → Answer c × σ} {p : Program Call Answer α} {a : α}
    (h : p.run answer s = (a, s')) : Run (answering answer) p s (p.trace answer s) a s' := by
  have run := of_answers (w := answering answer) (fun _ _ => rfl) p s
  rwa [h] at run

theorem eval {answer : σ → (c : Call) → Answer c × σ} {p : Program Call Answer α} {a : α}
    (h : Run (answering answer) p s t a s') : p.trace answer s = t ∧ p.run answer s = (a, s') := by
  induction h with
  | done => exact ⟨rfl, rfl⟩
  | @call c next x s s₁ s₂ t a answered _ ih =>
    have answered : answer s c = (x, s₁) := answered
    simp only [Program.trace, Program.run, answered]
    exact ⟨congrArg (_ :: ·) ih.1, ih.2⟩

theorem invariant {inv : σ → Prop} (kept : ∀ c s x s', inv s → w c s x s' → inv s')
    {p : Program Call Answer α} {a : α} (start : inv s) (h : Run w p s t a s') : inv s' := by
  induction h with
  | done => exact start
  | call answered _ ih => exact ih (kept _ _ _ _ start answered)

/-- A run is one as seen through a part of the state, if every call is. -/
theorem map {w' : World Call Answer τ} (f : σ → τ)
    (seen : ∀ c s x s', w c s x s' → w' c (f s) x (f s')) {p : Program Call Answer α} {a : α}
    (h : Run w p s t a s') : Run w' p (f s) t a (f s') := by
  induction h with
  | done a s => exact .done a _
  | call answered _ ih => exact .call (seen _ _ _ _ answered) ih

theorem mono {w' : World Call Answer σ} (allows : ∀ c s x s', w c s x s' → w' c s x s')
    {p : Program Call Answer α} {a : α} (h : Run w p s t a s') : Run w' p s t a s' :=
  h.map id allows

theorem mapM_cons_iff {f : α → Program Call Answer β} {a : α} {l : List α} {values : List β} :
    Run w ((a :: l).mapM f) s t values s' ↔ ∃ t₁ b s₁ t₂ rest, t = t₁ ++ t₂ ∧ values = b :: rest ∧
      Run w (f a) s t₁ b s₁ ∧ Run w (l.mapM f) s₁ t₂ rest s' := by
  rw [List.mapM_cons]
  constructor
  · intro h
    obtain ⟨t₁, b, s₁, _, rfl, first, others⟩ := bind_iff.1 h
    obtain ⟨t₂, rest, _, _, rfl, others, passed⟩ := bind_iff.1 others
    obtain ⟨rfl, rfl, rfl⟩ := pure_iff.1 passed
    exact ⟨t₁, b, s₁, t₂, rest, by rw [List.append_nil], rfl, first, others⟩
  · rintro ⟨t₁, b, s₁, t₂, rest, rfl, rfl, first, others⟩
    exact bind_iff.2 ⟨t₁, b, s₁, t₂, rfl, first,
      bind_iff.2 ⟨t₂, rest, s', [], by rw [List.append_nil], others, .done _ _⟩⟩

theorem mapM_mapped_cons {f : α → Program Call Answer β} {g : β → γ} {a : α} {l : List α} {values : List γ}
    (h : Run w ((a :: l).mapM fun a => do return g (← f a)) s t values s') :
    ∃ t₁ b s₁ t₂ rest, t = t₁ ++ t₂ ∧ values = g b :: rest ∧ Run w (f a) s t₁ b s₁ ∧
      Run w (l.mapM fun a => do return g (← f a)) s₁ t₂ rest s' := by
  obtain ⟨t₁, _, s₁, t₂, rest, rfl, rfl, made, others⟩ := mapM_cons_iff.1 h
  rw [← map_eq_pure_bind] at made
  obtain ⟨b, rfl, first⟩ := map_iff.1 made
  exact ⟨t₁, b, s₁, t₂, rest, rfl, rfl, first, others⟩

/-- Each value of a list of programs is that of its own run. -/
theorem mapM_forall₂ {f : α → Program Call Answer β} {l : List α} {values : List β}
    (h : Run w (l.mapM f) s t values s') :
    List.Forall₂ (fun a b => ∃ s₁ u s₂, u <:+: t ∧ Run w (f a) s₁ u b s₂) l values := by
  induction l generalizing s t values with
  | nil =>
    obtain ⟨-, rfl, -⟩ := pure_iff.1 h
    exact .nil
  | cons a l ih =>
    obtain ⟨u, b, s₁, v, others, rfl, rfl, first, rest⟩ := mapM_cons_iff.1 h
    have later : v <:+: u ++ v := ⟨u, [], by simp⟩
    refine .cons ⟨s, u, s₁, (List.prefix_append _ _).isInfix, first⟩ ((ih rest).imp ?_)
    rintro a b ⟨s₁, u', s₂, part, run⟩
    exact ⟨s₁, u', s₂, part.trans later, run⟩

end Run

/-- Two states that answer every call together. -/
def both (w : World Call Answer σ) (w' : World Call Answer τ) : World Call Answer (σ × τ) :=
  fun c s x s' => w c s.1 x s'.1 ∧ w' c s.2 x s'.2

section
variable {w : World Call Answer σ} {w' : World Call Answer τ} {p : Program Call Answer α} {a : α}
  {s s' : σ × τ} {t : List (Event Call Answer)}

theorem Run.left (h : Run (both w w') p s t a s') : Run w p s.1 t a s'.1 :=
  h.map Prod.fst fun _ _ _ _ answered => answered.1

theorem Run.right (h : Run (both w w') p s t a s') : Run w' p s.2 t a s'.2 :=
  h.map Prod.snd fun _ _ _ _ answered => answered.2

end

theorem trace_bind (answer : σ → (c : Call) → Answer c × σ) (p : Program Call Answer α)
    (f : α → Program Call Answer β) (s : σ) :
    (p >>= f).trace answer s =
      p.trace answer s ++ (f (p.run answer s).1).trace answer (p.run answer s).2 := by
  induction p generalizing s with
  | done a => rfl
  | call c next ih => exact congrArg (_ :: ·) (ih _ _)

/-! ## Computations that may fail, on a state that answers -/

section
variable {answer : σ → (c : Call) → Answer c × σ} {x : ExceptT ε (Program Call Answer) α}
  {f : α → ExceptT ε (Program Call Answer) β} {s s' : σ}

theorem run_bindExcept_ok {a : α} (first : x.run.run answer s = (.ok a, s')) :
    (x >>= f).run.run answer s = (f a).run.run answer s' := by
  rw [ExceptT.run_bind, run_bind, first]

theorem run_bindExcept_error {e : ε} (first : x.run.run answer s = (.error e, s')) :
    (x >>= f).run.run answer s = (.error e, s') := by
  rw [ExceptT.run_bind, run_bind, first]
  rfl

theorem trace_bindExcept_ok {a : α} (first : x.run.run answer s = (.ok a, s')) :
    (x >>= f).run.trace answer s = x.run.trace answer s ++ (f a).run.trace answer s' := by
  rw [ExceptT.run_bind, trace_bind, first]

theorem trace_bindExcept_error {e : ε} (first : x.run.run answer s = (.error e, s')) :
    (x >>= f).run.trace answer s = x.run.trace answer s := by
  rw [ExceptT.run_bind, trace_bind, first]
  exact List.append_nil _

theorem run_bindLift {p : Program Call Answer α} {a : α} (first : p.run answer s = (a, s')) :
    (ExceptT.lift p >>= f).run.run answer s = (f a).run.run answer s' := by
  rw [ExceptT.run_bind_lift, run_bind, first]

end

/-- A part of the trace is that of a run of the program, which ended with `a`. -/
def Ran (w : World Call Answer σ) (p : Program Call Answer α) (a : α)
    (t : List (Event Call Answer)) : Prop :=
  ∃ s u s', u <:+: t ∧ Run w p s u a s'

namespace Ran

variable {w : World Call Answer σ} {p : Program Call Answer α} {a : α}
  {t t₁ t₂ : List (Event Call Answer)}

theorem of_run {s s' : σ} (h : Run w p s t a s') : Ran w p a t := ⟨s, t, s', List.infix_refl t, h⟩

theorem mono (h : Ran w p a t₁) (part : t₁ <:+: t₂) : Ran w p a t₂ := by
  obtain ⟨s, u, s', within, run⟩ := h
  exact ⟨s, u, s', within.trans part, run⟩

theorem left (h : Ran w p a t₁) : Ran w p a (t₁ ++ t₂) := h.mono (List.prefix_append _ _).isInfix

theorem right (h : Ran w p a t₂) : Ran w p a (t₁ ++ t₂) := h.mono (List.suffix_append _ _).isInfix

theorem of_ask {c : Call} {x : Answer c} (h : Ran w (ask c) x t) : ⟨c, x⟩ ∈ t := by
  obtain ⟨s, u, s', part, run⟩ := h
  obtain ⟨rfl, -⟩ := Run.ask_iff.1 run
  exact part.subset (List.mem_singleton_self _)

end Ran

/-! ## What runs lead from and to -/

/-- A relation between the states around a trace that is kept when one trace follows another. -/
structure Chains (R : σ → List (Event Call Answer) → σ → Prop) : Prop where
  refl : ∀ s, R s [] s
  append : ∀ {s s₁ s' t t'}, R s t s₁ → R s₁ t' s' → R s (t ++ t') s'

/-- Where the invariant holds, the relation does, and the invariant still. -/
def Guarded (inv : σ → Prop) (R : σ → List (Event Call Answer) → σ → Prop) (s : σ)
    (t : List (Event Call Answer)) (s' : σ) : Prop :=
  inv s → inv s' ∧ R s t s'

theorem Chains.guarded {R : σ → List (Event Call Answer) → σ → Prop} {inv : σ → Prop}
    (chains : Chains R) : Chains (Guarded inv R) where
  refl s holds := ⟨holds, chains.refl s⟩
  append first rest holds := by
    obtain ⟨holds₁, related₁⟩ := first holds
    obtain ⟨holds₂, related₂⟩ := rest holds₁
    exact ⟨holds₂, chains.append related₁ related₂⟩

/-- It is enough to relate the states around traces that are spared something, if their parts are. -/
theorem Chains.given {R : σ → List (Event Call Answer) → σ → Prop}
    {spared : List (Event Call Answer) → Prop} (chains : Chains R)
    (parts : ∀ t t', spared (t ++ t') → spared t ∧ spared t') :
    Chains fun s t s' => spared t → R s t s' where
  refl s _ := chains.refl s
  append first rest whole := by
    obtain ⟨before, after⟩ := parts _ _ whole
    exact chains.append (first before) (rest after)

/-- Every run of the program leads from a state to one that it is related to. -/
def Respects (w : World Call Answer σ) (R : σ → List (Event Call Answer) → σ → Prop)
    (p : Program Call Answer α) : Prop :=
  ∀ s t a s', Run w p s t a s' → R s t s'

namespace Respects

variable {w : World Call Answer σ} {R R' : σ → List (Event Call Answer) → σ → Prop}

theorem mono {p : Program Call Answer α} (h : Respects w R p) (implies : ∀ s t s', R s t s' → R' s t s') :
    Respects w R' p :=
  fun s t a s' run => implies s t s' (h s t a s' run)

theorem ask {c : Call} (one : ∀ s x s', w c s x s' → R s [⟨c, x⟩] s') : Respects w R (ask c) := by
  intro s t x s' run
  obtain ⟨rfl, answered⟩ := Run.ask_iff.1 run
  exact one s x s' answered

section
variable (chains : Chains R)
include chains

theorem pure (a : α) : Respects w R (Pure.pure a : Program Call Answer α) := by
  intro s t b s' run
  obtain ⟨rfl, -, rfl⟩ := Run.pure_iff.1 run
  exact chains.refl _

theorem bind {p : Program Call Answer α} {f : α → Program Call Answer β} (first : Respects w R p)
    (rest : ∀ a, Respects w R (f a)) : Respects w R (p >>= f) := by
  intro s t b s' run
  obtain ⟨t₁, a, s₁, t₂, rfl, ran, ended⟩ := Run.bind_iff.1 run
  exact chains.append (first _ _ _ _ ran) (rest a _ _ _ _ ended)

theorem bindExcept {p : ExceptT ε (Program Call Answer) α} {f : α → ExceptT ε (Program Call Answer) β}
    (first : Respects w R p.run) (rest : ∀ a, Respects w R (f a).run) :
    Respects w R (p >>= f).run := by
  refine bind chains first fun x => ?_
  cases x with
  | ok a => exact rest a
  | error _ => exact pure chains _

theorem throw (e : ε) : Respects w R (throw e : ExceptT ε (Program Call Answer) α).run :=
  pure chains _

theorem mapM {f : α → Program Call Answer β} {l : List α} (each : ∀ a ∈ l, Respects w R (f a)) :
    Respects w R (l.mapM f) := by
  induction l with
  | nil => exact pure chains _
  | cons a l ih =>
    obtain ⟨first, others⟩ := List.forall_mem_cons.1 each
    rw [List.mapM_cons]
    exact bind chains first fun _ => bind chains (ih others) fun _ => pure chains _

end

end Respects

/-! ## What programs keep to -/

/-- Whatever it is answered, the program makes only calls of one kind and ends with a value of one
kind. -/
def Keeps (calls : Call → Prop) (result : α → Prop) : Program Call Answer α → Prop
  | done a => result a
  | call c next => calls c ∧ ∀ x, (next x).Keeps calls result

namespace Keeps

variable {calls : Call → Prop} {result : α → Prop} {result' : β → Prop}

theorem bind {p : Program Call Answer α} {f : α → Program Call Answer β}
    (first : p.Keeps calls result) (rest : ∀ a, result a → (f a).Keeps calls result') :
    (p >>= f).Keeps calls result' := by
  induction p with
  | done a => exact rest a first
  | call c next ih => exact ⟨first.1, fun x => ih x (first.2 x)⟩

theorem any (p : Program Call Answer α) : p.Keeps (fun _ => True) fun _ => True := by
  induction p with
  | done => trivial
  | call c next ih => exact ⟨trivial, ih⟩

theorem of_run {p : Program Call Answer α} {w : World Call Answer σ} {s s' : σ}
    {t : List (Event Call Answer)} {a : α} (h : p.Keeps calls result) (run : Run w p s t a s') :
    result a := by
  induction run with
  | done => exact h
  | call _ _ ih => exact ih (h.2 _)

theorem respects {p : Program Call Answer α} {w : World Call Answer σ} (h : p.Keeps calls result) :
    Respects w (fun _ t _ => ∀ v ∈ t, calls v.call) p := by
  intro s t a s' run
  induction run with
  | done => exact List.forall_mem_nil _
  | call _ _ ih => exact List.forall_mem_cons.2 ⟨h.1, ih (h.2 _)⟩

theorem mono {p : Program Call Answer α} {result₂ : α → Prop} (h : p.Keeps calls result)
    (implies : ∀ a, result a → result₂ a) : p.Keeps calls result₂ := by
  induction p with
  | done a => exact implies a h
  | call c next ih => exact ⟨h.1, fun x => ih x (h.2 x)⟩

/-- A program of one kind of calls is one of a wider kind. -/
theorem widen {calls' : Call → Prop} {p : Program Call Answer α} (h : p.Keeps calls result)
    (wider : ∀ c, calls c → calls' c) : p.Keeps calls' result := by
  induction p with
  | done a => exact h
  | call c next ih => exact ⟨wider c h.1, fun x => ih x (h.2 x)⟩

theorem and {calls' : Call → Prop} {result₂ : α → Prop} {p : Program Call Answer α}
    (h : p.Keeps calls result) (h' : p.Keeps calls' result₂) :
    p.Keeps (fun c => calls c ∧ calls' c) fun a => result a ∧ result₂ a := by
  induction p with
  | done a => exact ⟨h, h'⟩
  | call c next ih => exact ⟨⟨h.1, h'.1⟩, fun x => ih x (h.2 x) (h'.2 x)⟩

theorem bindExcept {x : ExceptT ε (Program Call Answer) α} {f : α → ExceptT ε (Program Call Answer) β}
    (first : x.run.Keeps calls fun _ => True) (rest : ∀ a, (f a).run.Keeps calls fun _ => True) :
    (x >>= f).run.Keeps calls fun _ => True := by
  rw [ExceptT.run_bind]
  refine first.bind fun r _ => ?_
  cases r with
  | ok a => exact rest a
  | error _ => exact trivial

/-- What no call of the kind breaks, the program does not. -/
theorem invariant {w : World Call Answer σ} {p : Program Call Answer α} {s s' : σ}
    {t : List (Event Call Answer)} {a : α} (h : p.Keeps calls result) (inv : σ → Prop)
    (kept : ∀ c s x s', calls c → inv s → w c s x s' → inv s') (start : inv s) (run : Run w p s t a s') :
    inv s' ∧ result a := by
  induction run with
  | done => exact ⟨start, h⟩
  | call answered _ ih => exact ih (h.2 _) (kept _ _ _ _ h.1 start answered)

/-- A program of calls that leave the state leaves it. -/
theorem unchanged {w : World Call Answer σ} {p : Program Call Answer α} {s s' : σ}
    {t : List (Event Call Answer)} {a : α} (h : p.Keeps calls result)
    (idle : ∀ c s x s', calls c → w c s x s' → s' = s) (run : Run w p s t a s') : s' = s ∧ result a :=
  h.invariant (· = s) (fun _ _ _ _ kind same answered => (idle _ _ _ _ kind answered).trans same)
    rfl run

end Keeps

end Program

/-- A call on a collaborator with its answer. -/
abbrev Event := Program.Event Call Call.Answer

abbrev Trace := List Event

abbrev World (σ : Type) := Program.World Call Call.Answer σ

end KeyCustody
