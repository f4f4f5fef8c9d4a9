import KeyCustody.Proofs.Path

/-!
# Calls that change places

Of two calls that have nothing to do with each other either may come first: the answers are the same, and so is
what they leave. What holds of single calls holds of the programs that make them, one after the other.
-/

namespace KeyCustody.Program

variable {Call : Type} {Answer : Call → Type} {α σ τ : Type}

/-- The second of two calls may as well come first. -/
def Swaps (w : World Call Answer σ) (v u : Event Call Answer) : Prop :=
  ∀ s s₁ s₂, w v.call s v.answer s₁ → w u.call s₁ u.answer s₂ →
    ∃ s₃, w u.call s u.answer s₃ ∧ w v.call s₃ v.answer s₂

/-- What a call does to the state is its own. Whether it can be so answered is the same whatever others do. -/
def Minds (w : World Call Answer σ) (own others : (σ → σ) → Prop) (v : Event Call Answer) : Prop :=
  ∃ (can : σ → Prop) (does : σ → σ), own does ∧ (∀ s s', w v.call s v.answer s' ↔ can s ∧ s' = does s) ∧
    ∀ d, others d → ∀ s, can (d s) ↔ can s

section
variable {w : World Call Answer σ} {w' : World Call Answer τ} {own others : (σ → σ) → Prop}
  {u v : Event Call Answer} {t t' : List (Event Call Answer)} {s s' s₁ : σ}

theorem Minds.idle (nothing : own id) (leaves : ∀ s s', w v.call s v.answer s' ↔ s' = s) : Minds w own others v := by
  refine ⟨fun _ => True, id, nothing, fun s s' => ?_, fun _ _ _ => Iff.rfl⟩
  rw [leaves, true_and]
  rfl

theorem Minds.of_answer {c : Call} {x : Answer c} {f : σ → Answer c} {does : σ → σ} (mine : own does)
    (acts : ∀ s s', w c s x s' ↔ x = f s ∧ s' = does s) (alike : ∀ d, others d → ∀ s, f (d s) = f s) :
    Minds w own others ⟨c, x⟩ :=
  ⟨fun s => x = f s, does, mine, acts, fun d other s => iff_of_eq (congrArg (x = ·) (alike d other s))⟩

/-- Neither call changes how the other can be answered, and what they do commutes. -/
theorem Minds.swaps (h : Minds w own others v) (h' : Minds w others own u)
    (commute : ∀ d d', own d → others d' → ∀ s, d' (d s) = d (d' s)) : Swaps w v u := by
  obtain ⟨can, does, mine, acts, minds⟩ := h
  obtain ⟨can', does', other, acts', minds'⟩ := h'
  intro s s₁ s₂ before after
  obtain ⟨held, rfl⟩ := (acts _ _).1 before
  obtain ⟨held', rfl⟩ := (acts' _ _).1 after
  have ahead := (acts' _ _).2 ⟨(minds' _ mine s).1 held', rfl⟩
  exact ⟨does' s, ahead, (acts _ _).2 ⟨(minds _ other s).2 held, commute _ _ mine other s⟩⟩

theorem Swaps.both (first : Swaps w v u) (last : Swaps w' v u) : Swaps (both w w') v u := by
  intro s s₁ s₂ before after
  obtain ⟨left, ahead, behind⟩ := first _ _ _ before.1 after.1
  obtain ⟨right, ahead', behind'⟩ := last _ _ _ before.2 after.2
  exact ⟨(left, right), ⟨ahead, ahead'⟩, ⟨behind, behind'⟩⟩

/-! ## Paths -/

theorem Path.swap_cons (swaps : ∀ u ∈ t, Swaps w v u) (h : Path w s (v :: t) s') : Path w s (t ++ [v]) s' := by
  induction t generalizing s with
  | nil => exact h
  | cons u t ih =>
    obtain ⟨first, others⟩ := List.forall_mem_cons.1 swaps
    obtain ⟨s₁, before, rest⟩ := Path.cons_iff.1 h
    obtain ⟨s₂, after, rest⟩ := Path.cons_iff.1 rest
    obtain ⟨s₃, ahead, behind⟩ := first _ _ _ before after
    exact .cons ahead (ih others (.cons behind rest))

/-- Calls of which each may follow each of some others may follow them all. -/
theorem Path.swap (swaps : ∀ v ∈ t, ∀ u ∈ t', Swaps w v u) (h : Path w s (t ++ t') s') :
    Path w s (t' ++ t) s' := by
  induction t generalizing s with
  | nil => rwa [List.append_nil]
  | cons v t ih =>
    obtain ⟨first, others⟩ := List.forall_mem_cons.1 swaps
    obtain ⟨s₁, answered, rest⟩ := Path.cons_iff.1 h
    -- the later calls of the first part make way, and then its first call does
    obtain ⟨s₂, before, after⟩ := Path.append_iff.1 (ih others rest)
    obtain ⟨s₃, ahead, behind⟩ := Path.append_iff.1 (Path.swap_cons first (.cons answered before))
    obtain ⟨_, last, idle⟩ := Path.cons_iff.1 behind
    cases idle
    exact Path.append_iff.2 ⟨s₃, ahead, .cons last after⟩

/-! ## Runs -/

variable {p : Program Call Answer α} {a b : α}

/-- Where calls of a kind are answered in one way, a program of such calls has one run. -/
theorem Run.once {kind : Call → Prop}
    (once : ∀ {c x x₁ s s' s₁}, kind c → w c s x s' → w c s x₁ s₁ → x = x₁ ∧ s' = s₁)
    (all : ∀ v ∈ t, kind v.call) (h : Run w p s t a s') (h' : Run w p s t' b s₁) : t = t' ∧ a = b ∧ s' = s₁ := by
  induction h generalizing t' with
  | done =>
    obtain ⟨rfl, rfl, rfl⟩ := Run.done_iff.1 h'
    exact ⟨rfl, rfl, rfl⟩
  | call answered _ ih =>
    cases h' with
    | call answered' rest' =>
      obtain ⟨first, others⟩ := List.forall_mem_cons.1 all
      obtain ⟨rfl, rfl⟩ := once first answered answered'
      obtain ⟨rfl, rfl, rfl⟩ := ih others rest'
      exact ⟨rfl, rfl, rfl⟩

end

end KeyCustody.Program
