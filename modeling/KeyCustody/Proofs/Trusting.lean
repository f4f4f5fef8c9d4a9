import KeyCustody.Proofs.Path

/-!
# Programs that go by what they are told

What a program calls may depend on what it was answered before. Its calls are of a kind as long as the answers
are sound; where a state gives sound answers to calls of that kind, they all are.
-/

namespace KeyCustody.Program

variable {Call : Type} {Answer : Call → Type} {α σ : Type}

/-- The calls of a trace are of a kind, as long as the answers before them are sound. -/
def Trusting (kind : Call → Prop) (sound : Event Call Answer → Prop) : List (Event Call Answer) → Prop
  | [] => True
  | v :: t => kind v.call ∧ (sound v → Trusting kind sound t)

variable {kind : Call → Prop} {sound : Event Call Answer → Prop} {t t' : List (Event Call Answer)}

theorem trusting_append (first : Trusting kind sound t) (rest : (∀ v ∈ t, sound v) → Trusting kind sound t') :
    Trusting kind sound (t ++ t') := by
  induction t with
  | nil => exact rest (List.forall_mem_nil _)
  | cons v t ih =>
    refine ⟨first.1, fun told => ih (first.2 told) fun others => rest ?_⟩
    exact List.forall_mem_cons.2 ⟨told, others⟩

theorem trusting_of_kind (all : ∀ v ∈ t, kind v.call) : Trusting kind sound t := by
  induction t with
  | nil => trivial
  | cons v t ih =>
    obtain ⟨first, others⟩ := List.forall_mem_cons.1 all
    exact ⟨first, fun _ => ih others⟩

/-- Where the state gives sound answers to calls of the kind, and keeps doing so, all calls are of the kind. -/
theorem Trusting.of_path {w : World Call Answer σ} {s s' : σ} {inv : σ → Prop} (trusting : Trusting kind sound t)
    (tells : ∀ {c s x s'}, inv s → kind c → w c s x s' → sound ⟨c, x⟩)
    (kept : ∀ {c s x s'}, inv s → kind c → w c s x s' → inv s') (start : inv s) (h : Path w s t s') :
    (∀ v ∈ t, kind v.call) ∧ inv s' := by
  induction h with
  | nil => exact ⟨List.forall_mem_nil _, start⟩
  | cons answered _ ih =>
    obtain ⟨first, later⟩ := trusting
    obtain ⟨others, ended⟩ := ih (later (tells start first answered)) (kept start first answered)
    exact ⟨List.forall_mem_cons.2 ⟨first, others⟩, ended⟩

theorem chains_trusting : Chains fun (_ : Unit) t _ => Trusting kind sound t where
  refl _ := trivial
  append first rest := trusting_append first fun _ => rest

/-- Whatever it is answered, the program is trusting. -/
abbrev Trusts (kind : Call → Prop) (sound : Event Call Answer → Prop) (p : Program Call Answer α) : Prop :=
  Respects free (fun _ t _ => Trusting kind sound t) p

theorem trusts_of_keeps {p : Program Call Answer α} {result : α → Prop} (keeps : p.Keeps kind result) :
    Trusts kind sound p :=
  keeps.respects.mono fun _ _ _ => trusting_of_kind

end KeyCustody.Program
