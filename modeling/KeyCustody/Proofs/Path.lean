import KeyCustody.Proofs.Run

/-!
# Programs that are under way

Where several programs call on one state, each makes its own calls, answered as if at will, and the
calls of all of them lead the state along one path.
-/

namespace KeyCustody.Program

variable {Call : Type} {Answer : Call → Type} {α β σ : Type}

/-! ## The path of a state -/

/-- The calls of a trace, one answered after the other, lead from a state to another. -/
inductive Path (w : World Call Answer σ) : σ → List (Event Call Answer) → σ → Prop
  | nil (s : σ) : Path w s [] s
  | cons {v : Event Call Answer} {s s₁ s' : σ} {t : List (Event Call Answer)}
      (answered : w v.call s v.answer s₁) (rest : Path w s₁ t s') : Path w s (v :: t) s'

namespace Path

variable {w : World Call Answer σ} {s s' : σ} {t t' : List (Event Call Answer)}
  {v : Event Call Answer}

theorem cons_iff : Path w s (v :: t) s' ↔ ∃ s₁, w v.call s v.answer s₁ ∧ Path w s₁ t s' := by
  constructor
  · intro h
    cases h with
    | cons answered rest => exact ⟨_, answered, rest⟩
  · rintro ⟨s₁, answered, rest⟩
    exact .cons answered rest

theorem append_iff : Path w s (t ++ t') s' ↔ ∃ s₁, Path w s t s₁ ∧ Path w s₁ t' s' := by
  constructor
  · intro h
    induction t generalizing s with
    | nil => exact ⟨s, .nil s, h⟩
    | cons v t ih =>
      obtain ⟨s₁, answered, rest⟩ := cons_iff.1 h
      obtain ⟨s₂, before, after⟩ := ih rest
      exact ⟨s₂, .cons answered before, after⟩
  · rintro ⟨s₁, before, after⟩
    induction before with
    | nil => exact after
    | cons answered _ ih => exact .cons answered (ih after)

/-- What none of the calls breaks holds at the end, given the calls up to it. -/
theorem along (Inv : List (Event Call Answer) → σ → Prop) (past : List (Event Call Answer))
    (kept : ∀ past s v s', v ∈ t → Inv past s → w v.call s v.answer s' → Inv (past ++ [v]) s')
    (start : Inv past s) (h : Path w s t s') : Inv (past ++ t) s' := by
  induction h generalizing past with
  | nil => rwa [List.append_nil]
  | cons answered _ ih =>
    have first := kept past _ _ _ List.mem_cons_self start answered
    have rest := ih _ (fun past s v s' member => kept past s v s' (List.mem_cons_of_mem _ member)) first
    rwa [List.append_assoc] at rest

/-- Calls that leave the state lead nowhere. -/
theorem unchanged (idle : ∀ v ∈ t, ∀ s s', w v.call s v.answer s' → s' = s) (h : Path w s t s') :
    s' = s := by
  induction h with
  | nil => rfl
  | cons answered _ ih =>
    obtain ⟨first, others⟩ := List.forall_mem_cons.1 idle
    exact (ih others).trans (first _ _ answered)

/-- A path is one as seen through a part of the state, if every call on it is. -/
theorem map {τ : Type} {w' : World Call Answer τ} (f : σ → τ)
    (seen : ∀ v ∈ t, ∀ s s', w v.call s v.answer s' → w' v.call (f s) v.answer (f s')) (h : Path w s t s') :
    Path w' (f s) t (f s') := by
  induction h with
  | nil => exact .nil _
  | cons answered _ ih =>
    obtain ⟨first, others⟩ := List.forall_mem_cons.1 seen
    exact .cons (first _ _ answered) (ih others)

end Path

theorem Run.path {w : World Call Answer σ} {p : Program Call Answer α} {a : α} {s s' : σ}
    {t : List (Event Call Answer)} (h : Run w p s t a s') : Path w s t s' := by
  induction h with
  | done _ s => exact .nil s
  | call answered _ ih => exact .cons answered ih

/-! ## The calls of a program -/

/-- The calls of one of the programs whose calls make a trace. -/
def callsOf {ι : Type} [DecidableEq ι] (i : ι) (t : List (ι × Event Call Answer)) :
    List (Event Call Answer) :=
  (t.filter (·.1 = i)).map (·.2)

section
variable {ι : Type} [DecidableEq ι] {i : ι} {t : List (ι × Event Call Answer)} {v : Event Call Answer}

theorem mem_callsOf : v ∈ callsOf i t ↔ (i, v) ∈ t := by
  simp [callsOf]

/-- A call that splits those of one program splits those of all. -/
theorem callsOf_split {u u' : List (Event Call Answer)} (h : callsOf i t = u ++ v :: u') :
    ∃ t₁ t₂, t = t₁ ++ (i, v) :: t₂ ∧ callsOf i t₁ = u ∧ callsOf i t₂ = u' := by
  obtain ⟨l₁, l₂, own, rfl, rest⟩ := List.map_eq_append_iff.1 h
  obtain ⟨x, l₃, rfl, rfl, rfl⟩ := List.map_eq_cons_iff.1 rest
  obtain ⟨t₁, t₂, rfl, rfl, last⟩ := List.filter_eq_append_iff.1 own
  obtain ⟨t₃, t₄, rfl, others, mine, rfl⟩ := List.filter_eq_cons_iff.1 last
  obtain ⟨_, v⟩ := x
  obtain rfl : i = _ := (of_decide_eq_true mine).symm
  refine ⟨t₁ ++ t₃, t₄, (List.append_assoc ..).symm, ?_, rfl⟩
  have none : t₃.filter (·.1 = i) = [] := List.filter_eq_nil_iff.2 others
  rw [callsOf, List.filter_append, none, List.append_nil]

end

/-- What is left of a program after the calls of a trace, whatever they were answered. -/
inductive Begins : Program Call Answer α → List (Event Call Answer) → Program Call Answer α → Prop
  | here (p : Program Call Answer α) : Begins p [] p
  | call {c : Call} {next : Answer c → Program Call Answer α} {x : Answer c}
      {t : List (Event Call Answer)} {p' : Program Call Answer α} (rest : Begins (next x) t p') :
      Begins (.call c next) (⟨c, x⟩ :: t) p'

/-- The value of a program that is done. -/
def value? : Program Call Answer α → Option α
  | done a => some a
  | call .. => none

theorem eq_done_of_value? {p : Program Call Answer α} {a : α} (h : p.value? = some a) :
    p = .done a := by
  cases p with
  | done _ => exact congrArg done (Option.some.inj h)
  | call _ _ => cases h

/-- The world that answers every call with anything. -/
def free : World Call Answer Unit := fun _ _ _ _ => True

/-- What follows a program may be replaced where no run of it ends elsewhere. -/
theorem bind_congr_of_runs {p : Program Call Answer α} {f g : α → Program Call Answer β}
    (same : ∀ t a, Run free p () t a () → f a = g a) : p >>= f = p >>= g := by
  induction p with
  | done a => exact same [] a (.done a ())
  | call c next ih =>
    refine congrArg (call c) (funext fun x => ih x fun t a run => ?_)
    exact same (⟨c, x⟩ :: t) a (.call trivial run)

theorem Run.beside {w : World Call Answer σ} {p : Program Call Answer α} {s s' : σ}
    {t : List (Event Call Answer)} {a : α} (h : Run w p s t a s') :
    Run (both w free) p (s, ()) t a (s', ()) :=
  h.map (·, ()) fun _ _ _ _ answered => ⟨answered, trivial⟩

variable {p p' : Program Call Answer α} {t : List (Event Call Answer)}

theorem Run.free {w : World Call Answer σ} {s s' : σ} {a : α} (h : Run w p s t a s') : Run free p () t a () :=
  h.beside.right

/-- A program whose calls lead along a path runs there. -/
theorem Run.of_path {w : World Call Answer σ} {s s' : σ} {y y' : Unit} {a : α} (begun : Run Program.free p y t a y')
    (h : Path w s t s') : Run w p s t a s' := by
  induction begun generalizing s with
  | done =>
    cases h
    exact .done _ _
  | call _ _ ih =>
    obtain ⟨s₁, answered, rest⟩ := Path.cons_iff.1 h
    exact .call answered (ih rest)

/-- A program of which nothing is left has run. -/
theorem Begins.run {a : α} (h : Begins p t (.done a)) : Run free p () t a () := by
  generalize ended : (.done a : Program Call Answer α) = p' at h
  induction h with
  | here => subst ended; exact .done a ()
  | call _ ih => exact .call trivial (ih ended)

theorem Keeps.of_begins {calls : Call → Prop} {result : α → Prop} (keeps : p.Keeps calls result)
    (h : Begins p t p') : ∀ v ∈ t, calls v.call := by
  induction h with
  | here => exact List.forall_mem_nil _
  | call _ ih => exact List.forall_mem_cons.2 ⟨keeps.1, ih (keeps.2 _)⟩

end KeyCustody.Program
