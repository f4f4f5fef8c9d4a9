import KeyCustody.Proofs.Path

/-!
# Programs that take turns

Two programs on one state, in any order of their calls, up to any moment. What a program grants about
each of its calls depends on the calls it has made before, and on what it may rely on about the answers;
it is said of the program itself. What the state keeps to then holds at every moment if no call that is
granted breaks it, whichever side makes it.
-/

namespace KeyCustody.Program

variable {Call : Type} {Answer : Call → Type} {α β ε σ τ : Type}

inductive Side where
  | left
  | right
  deriving DecidableEq, Repr

/-- The calls made by a moment, with who made each, what is left of either program, and the state. -/
inductive Interleaved (w : World Call Answer σ) :
    Program Call Answer α → Program Call Answer β → σ → List (Side × Event Call Answer) →
      Program Call Answer α → Program Call Answer β → σ → Prop
  | here (p : Program Call Answer α) (q : Program Call Answer β) (s : σ) : Interleaved w p q s [] p q s
  | left {c : Call} {next : Answer c → Program Call Answer α} {p' : Program Call Answer α}
      {q q' : Program Call Answer β} {x : Answer c} {s s₁ s₂ : σ} {t : List (Side × Event Call Answer)}
      (answered : w c s x s₁) (rest : Interleaved w (next x) q s₁ t p' q' s₂) :
      Interleaved w (.call c next) q s ((.left, ⟨c, x⟩) :: t) p' q' s₂
  | right {c : Call} {next : Answer c → Program Call Answer β} {p p' : Program Call Answer α}
      {q' : Program Call Answer β} {x : Answer c} {s s₁ s₂ : σ} {t : List (Side × Event Call Answer)}
      (answered : w c s x s₁) (rest : Interleaved w p (next x) s₁ t p' q' s₂) :
      Interleaved w p (.call c next) s ((.right, ⟨c, x⟩) :: t) p' q' s₂

/-- The calls of one side. -/
def part (side : Side) (t : List (Side × Event Call Answer)) : List (Event Call Answer) :=
  (t.filter (·.1 = side)).map (·.2)

section
variable {side : Side} {t t' : List (Side × Event Call Answer)} {v : Event Call Answer}

@[simp] theorem part_append : part side (t ++ t') = part side t ++ part side t' := by
  simp [part]

@[simp] theorem part_own : part side [(side, v)] = [v] := by simp [part]

@[simp] theorem part_left_right : part .left [(.right, v)] = [] := rfl

@[simp] theorem part_right_left : part .right [(.left, v)] = [] := rfl

theorem mem_part : v ∈ part side t ↔ (side, v) ∈ t := by
  simp [part]

end

/-! ## Turns as scheduled -/

/-- Two programs take turns as scheduled, until the schedule ends; a side that is done is passed over. -/
def interleave (answer : σ → (c : Call) → Answer c × σ) :
    List Side → Program Call Answer α → Program Call Answer β → σ →
      List (Side × Event Call Answer) × Program Call Answer α × Program Call Answer β × σ
  | [], p, q, s => ([], p, q, s)
  | .left :: schedule, call c next, q, s =>
    let rest := interleave answer schedule (next (answer s c).1) q (answer s c).2
    ((.left, ⟨c, (answer s c).1⟩) :: rest.1, rest.2)
  | .right :: schedule, p, call c next, s =>
    let rest := interleave answer schedule p (next (answer s c).1) (answer s c).2
    ((.right, ⟨c, (answer s c).1⟩) :: rest.1, rest.2)
  | .left :: schedule, done a, q, s => interleave answer schedule (done a) q s
  | .right :: schedule, p, done b, s => interleave answer schedule p (done b) s

theorem Interleaved.of_schedule {answer : σ → (c : Call) → Answer c × σ} {w : World Call Answer σ}
    (allowed : ∀ s c, w c s (answer s c).1 (answer s c).2) (schedule : List Side)
    (p : Program Call Answer α) (q : Program Call Answer β) (s : σ) :
    Interleaved w p q s (interleave answer schedule p q s).1 (interleave answer schedule p q s).2.1
      (interleave answer schedule p q s).2.2.1 (interleave answer schedule p q s).2.2.2 := by
  induction schedule generalizing p q s with
  | nil => exact .here p q s
  | cons side schedule ih =>
    cases side with
    | left =>
      cases p with
      | done _ => exact ih _ _ _
      | call c next => exact .left (allowed s c) (ih _ _ _)
    | right =>
      cases q with
      | done _ =>
        cases p with
        | done _ => exact ih _ _ _
        | call _ _ => exact ih _ _ _
      | call c next =>
        cases p with
        | done _ => exact .right (allowed s c) (ih _ _ _)
        | call _ _ => exact .right (allowed s c) (ih _ _ _)

/-- An interleaving in one world is one in any world that shows no more of it. -/
theorem Interleaved.map {w : World Call Answer σ} {w' : World Call Answer τ} (view : σ → τ)
    (shows : ∀ c s x s', w c s x s' → w' c (view s) x (view s')) {p p' : Program Call Answer α}
    {q q' : Program Call Answer β} {s s' : σ} {t : List (Side × Event Call Answer)}
    (h : Interleaved w p q s t p' q' s') : Interleaved w' p q (view s) t p' q' (view s') := by
  induction h with
  | here p q s => exact .here p q (view s)
  | left answered _ ih => exact .left (shows _ _ _ _ answered) ih
  | right answered _ ih => exact .right (shows _ _ _ _ answered) ih

/-- The calls of both sides lead the state along one path. -/
theorem Interleaved.path {w : World Call Answer σ} {p p' : Program Call Answer α}
    {q q' : Program Call Answer β} {s s' : σ} {t : List (Side × Event Call Answer)}
    (h : Interleaved w p q s t p' q' s') : Path w s (t.map (·.2)) s' := by
  induction h with
  | here _ _ s => exact .nil s
  | left answered _ ih => exact .cons answered ih
  | right answered _ ih => exact .cons answered ih

/-- Either side makes its own calls. -/
theorem Interleaved.begins {w : World Call Answer σ} {p p' : Program Call Answer α}
    {q q' : Program Call Answer β} {s s' : σ} {t : List (Side × Event Call Answer)}
    (h : Interleaved w p q s t p' q' s') :
    Begins p (callsOf .left t) p' ∧ Begins q (callsOf .right t) q' := by
  induction h with
  | here p q _ => exact ⟨.here p, .here q⟩
  | left _ _ ih => exact ⟨.call ih.1, ih.2⟩
  | right _ _ ih => exact ⟨ih.1, .call ih.2⟩

/-! ## What a side grants -/

/-- What a program may rely on about an answer, and what it grants about a call, given its calls before. -/
structure Contract (Call : Type) (Answer : Call → Type) where
  relies : Event Call Answer → Prop
  grants : List (Event Call Answer) → Event Call Answer → Prop

/-- As long as it is answered as it relies on, the program grants what it has to about each call, and
ends with a result that suits its calls. -/
def Heeds (m : Contract Call Answer) (Q : List (Event Call Answer) → α → Prop) :
    List (Event Call Answer) → Program Call Answer α → Prop
  | past, done a => Q past a
  | past, call c next => ∀ x, m.relies ⟨c, x⟩ →
    m.grants past ⟨c, x⟩ ∧ Heeds m Q (past ++ [⟨c, x⟩]) (next x)

namespace Heeds

variable {m : Contract Call Answer} {Q Q' : List (Event Call Answer) → α → Prop}
  {R : List (Event Call Answer) → β → Prop} {past : List (Event Call Answer)}
  {p : Program Call Answer α}

theorem mono (h : p.Heeds m Q past) (implies : ∀ past a, Q past a → Q' past a) :
    p.Heeds m Q' past := by
  induction p generalizing past with
  | done a => exact implies past a h
  | call c next ih => exact fun x relied => ⟨(h x relied).1, ih x (h x relied).2⟩

theorem bind {f : α → Program Call Answer β} (first : p.Heeds m Q past)
    (rest : ∀ past a, Q past a → (f a).Heeds m R past) :
    (p >>= f).Heeds m R past := by
  induction p generalizing past with
  | done a => exact rest past a first
  | call c next ih => exact fun x relied => ⟨(first x relied).1, ih x (first x relied).2⟩

theorem bindExcept {x : ExceptT ε (Program Call Answer) α} {f : α → ExceptT ε (Program Call Answer) β}
    {Q : List (Event Call Answer) → Except ε α → Prop}
    {R : List (Event Call Answer) → Except ε β → Prop} (first : x.run.Heeds m Q past)
    (stops : ∀ past e, Q past (.error e) → R past (.error e))
    (rest : ∀ past a, Q past (.ok a) → (f a).run.Heeds m R past) :
    (x >>= f).run.Heeds m R past := by
  rw [ExceptT.run_bind]
  refine first.bind fun past a ended => ?_
  cases a with
  | ok a => exact rest past a ended
  | error e => exact stops past e ended

theorem ask {c : Call} {Q : List (Event Call Answer) → Answer c → Prop}
    (h : ∀ x, m.relies ⟨c, x⟩ → m.grants past ⟨c, x⟩ ∧ Q (past ++ [⟨c, x⟩]) x) :
    (Program.ask c).Heeds m Q past := h

/-- A program of calls that are granted at any time. -/
theorem of_keeps {calls : Call → Prop} {I : List (Event Call Answer) → Prop}
    {ends : α → Prop} (h : p.Keeps calls ends) (start : I past)
    (free : ∀ past c x, calls c → I past → m.grants past ⟨c, x⟩ ∧ I (past ++ [⟨c, x⟩])) :
    p.Heeds m (fun past a => I past ∧ ends a) past := by
  induction p generalizing past with
  | done a => exact ⟨start, h⟩
  | call c next ih =>
    intro x _
    obtain ⟨granted, later⟩ := free past c x h.1 start
    exact ⟨granted, ih x (h.2 x) later⟩

end Heeds

/-- What no granted call breaks holds at every moment, given the calls up to it. -/
theorem Interleaved.invariant {w : World Call Answer σ} {m n : Contract Call Answer}
    {Inv : List (Side × Event Call Answer) → σ → Prop}
    (onLeft : ∀ past s c x s', Inv past s → w c s x s' → m.relies ⟨c, x⟩ ∧
      (m.grants (part .left past) ⟨c, x⟩ → Inv (past ++ [(.left, ⟨c, x⟩)]) s'))
    (onRight : ∀ past s c x s', Inv past s → w c s x s' → n.relies ⟨c, x⟩ ∧
      (n.grants (part .right past) ⟨c, x⟩ → Inv (past ++ [(.right, ⟨c, x⟩)]) s'))
    {Q : List (Event Call Answer) → α → Prop} {R : List (Event Call Answer) → β → Prop}
    {p p' : Program Call Answer α} {q q' : Program Call Answer β} {s s' : σ}
    {past t : List (Side × Event Call Answer)} (h : Interleaved w p q s t p' q' s')
    (left : p.Heeds m Q (part .left past)) (right : q.Heeds n R (part .right past))
    (start : Inv past s) : Inv (past ++ t) s' := by
  induction h generalizing past with
  | here => rwa [List.append_nil]
  | left answered _ ih =>
    obtain ⟨relied, keeps⟩ := onLeft past _ _ _ _ start answered
    obtain ⟨granted, later⟩ := left _ relied
    have kept := @ih (past ++ [(.left, ⟨_, _⟩)]) (by simpa using later) (by simpa using right)
      (keeps granted)
    rwa [List.append_assoc] at kept
  | right answered _ ih =>
    obtain ⟨relied, keeps⟩ := onRight past _ _ _ _ start answered
    obtain ⟨granted, later⟩ := right _ relied
    have kept := @ih (past ++ [(.right, ⟨_, _⟩)]) (by simpa using left) (by simpa using later)
      (keeps granted)
    rwa [List.append_assoc] at kept

end KeyCustody.Program
