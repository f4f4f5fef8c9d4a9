import KeyCustody.Keystore.Generation
import KeyCustody.Proofs.Secret.Limits
import KeyCustody.Proofs.Text.Number

/-!
# Keys filled in

What a request does not say about its key is filled in: the algorithm, and up to two parameters. What it
says stays as it is, and what has been filled in once is not filled in again. The parameters may be more
than their limit allows then.
-/

namespace KeyCustody

namespace Attributes

variable {a : Attributes} {name name' text : String} {es : List (String × String)}

theorem lookup_put_self : (put name text es).lookup name = some text := by
  induction es with
  | nil => exact List.lookup_cons_self
  | cons e es ih =>
    unfold put
    by_cases before : name < e.1
    · rw [if_pos before]
      exact List.lookup_cons_self
    rw [if_neg before]
    by_cases same : name = e.1
    · rw [if_pos same]
      exact List.lookup_cons_self
    · rw [if_neg same, List.lookup_cons, beq_eq_false_iff_ne.2 same]
      exact ih

theorem lookup_put_other (different : name' ≠ name) : (put name text es).lookup name' = es.lookup name' := by
  have skipped : (name' == name) = false := beq_eq_false_iff_ne.2 different
  induction es with
  | nil => rw [put, List.lookup_cons, skipped]
  | cons e es ih =>
    unfold put
    by_cases before : name < e.1
    · rw [if_pos before, List.lookup_cons, skipped]
    rw [if_neg before]
    by_cases same : name = e.1
    · rw [if_pos same, List.lookup_cons, List.lookup_cons, skipped, ← same, skipped]
    · rw [if_neg same, List.lookup_cons, List.lookup_cons, ih]

theorem length_put_new (new : es.lookup name = none) : (put name text es).length = es.length + 1 := by
  induction es with
  | nil => rfl
  | cons e es ih =>
    have different : name ≠ e.1 := bne_iff_ne.1 (List.lookup_eq_none_iff.1 new e List.mem_cons_self)
    unfold put
    by_cases before : name < e.1
    · rw [if_pos before, List.length_cons]
    · rw [List.lookup_cons, beq_eq_false_iff_ne.2 different] at new
      rw [if_neg before, if_neg different, List.length_cons, List.length_cons, ih new]

theorem insertIfNew_taken (taken : (a.get? name).isSome = true) : a.insertIfNew name text = a := if_pos taken

theorem insertIfNew_new (new : a.get? name = none) : a.insertIfNew name text = a.insert name text :=
  if_neg (by simp [new])

/-- An entry that is there stays; one that is not has the text filled in. -/
theorem get?_insertIfNew_self : (a.insertIfNew name text).get? name = some ((a.get? name).getD text) := by
  cases held : a.get? name with
  | none => rw [insertIfNew_new held]; exact lookup_put_self
  | some own => rw [insertIfNew_taken (by rw [held]; rfl), held]; rfl

theorem get?_insertIfNew_other (different : name' ≠ name) :
    (a.insertIfNew name text).get? name' = a.get? name' := by
  cases held : a.get? name with
  | none => rw [insertIfNew_new held]; exact lookup_put_other different
  | some own => rw [insertIfNew_taken (by rw [held]; rfl)]

theorem size_insertIfNew :
    (a.insertIfNew name text).size = a.size + if a.get? name = none then 1 else 0 := by
  cases held : a.get? name with
  | none => rw [insertIfNew_new held]; exact length_put_new held
  | some own => rw [insertIfNew_taken (by rw [held]; rfl)]; rfl

theorem mem_insertIfNew {e : String × String} (member : e ∈ (a.insertIfNew name text).entries) :
    e = (name, text) ∨ e ∈ a.entries := by
  cases held : a.get? name with
  | none =>
    rw [insertIfNew_new held] at member
    exact mem_put member
  | some own =>
    rw [insertIfNew_taken (by rw [held]; rfl)] at member
    exact .inr member

end Attributes

namespace Secret

open Keystore

variable {s : Secret} {name : String}

theorem modeName_ne : modeName ≠ bitLengthName := by decide

/-- The secret as it is recorded: its key filled in, if one is to be generated. -/
def filled (s : Secret) : Secret := if s.hasMaterial then s else s.withKeyDefaults

/-- How many parameters are filled in. -/
def missing (s : Secret) : Nat :=
  if s.hasMaterial then 0
  else (if s.parameters.get? modeName = none then 1 else 0) +
    if s.parameters.get? bitLengthName = none then 1 else 0

theorem mode_withKeyDefaults :
    s.withKeyDefaults.parameters.get? modeName = some ((s.parameters.get? modeName).getD defaultMode) :=
  (Attributes.get?_insertIfNew_other modeName_ne).trans Attributes.get?_insertIfNew_self

theorem bitLength_withKeyDefaults : s.withKeyDefaults.parameters.get? bitLengthName =
    some ((s.parameters.get? bitLengthName).getD (toString defaultBitLength)) := by
  unfold withKeyDefaults
  rw [Attributes.get?_insertIfNew_self, Attributes.get?_insertIfNew_other modeName_ne.symm]

theorem get?_withKeyDefaults (mode : name ≠ modeName) (bitLength : name ≠ bitLengthName) :
    s.withKeyDefaults.parameters.get? name = s.parameters.get? name :=
  (Attributes.get?_insertIfNew_other bitLength).trans (Attributes.get?_insertIfNew_other mode)

/-- A key is filled in once. -/
theorem withKeyDefaults_withKeyDefaults : s.withKeyDefaults.withKeyDefaults = s.withKeyDefaults := by
  have mode : (s.withKeyDefaults.parameters.get? modeName).isSome = true := by rw [mode_withKeyDefaults]; rfl
  have bitLength : (s.withKeyDefaults.parameters.get? bitLengthName).isSome = true := by
    rw [bitLength_withKeyDefaults]; rfl
  have parameters : s.withKeyDefaults.withKeyDefaults.parameters = s.withKeyDefaults.parameters := by
    show (s.withKeyDefaults.parameters.insertIfNew modeName defaultMode).insertIfNew bitLengthName _ = _
    rw [Attributes.insertIfNew_taken mode, Attributes.insertIfNew_taken bitLength]
  show { s.withKeyDefaults with parameters := s.withKeyDefaults.withKeyDefaults.parameters } = _
  rw [parameters]

theorem keyParameters_withKeyDefaults : s.withKeyDefaults.keyParameters = s.keyParameters := by
  unfold keyParameters
  rw [withKeyDefaults_withKeyDefaults]

/-- What was said of the key is as it was, and what was not is filled in; nothing else that is noted has changed.
There is nothing left to fill in, and it is the same key as before. -/
structure FilledIn (s s' : Secret) : Prop where
  algorithm : s'.algorithm = some (s.algorithm.getD "AES")
  mode : s'.parameters.get? "mode" = some ((s.parameters.get? "mode").getD "GCM")
  bitLength : s'.parameters.get? "bitLength" = some ((s.parameters.get? "bitLength").getD "256")
  others : ∀ name, name ≠ "mode" → name ≠ "bitLength" → s'.parameters.get? name = s.parameters.get? name
  notes : s'.notes = s.notes
  again : s'.withKeyDefaults = s'
  key : s'.keyParameters = s.keyParameters

theorem filledIn_withKeyDefaults : s.FilledIn s.withKeyDefaults where
  algorithm := rfl
  mode := mode_withKeyDefaults
  bitLength := bitLength_withKeyDefaults
  others _ mode bitLength := get?_withKeyDefaults mode bitLength
  notes := rfl
  again := withKeyDefaults_withKeyDefaults
  key := keyParameters_withKeyDefaults

/-- The phase of a secret is not part of its key. -/
theorem FilledIn.enter {s' : Secret} (h : s.FilledIn s') (change : PhaseChange) : s.FilledIn (s'.enter change) where
  algorithm := h.algorithm
  mode := h.mode
  bitLength := h.bitLength
  others := h.others
  notes := h.notes
  again := congrArg (Secret.enter · change) h.again
  key := h.key

/-- The length of a key is what its text denotes; there is no key where that is no number below the bound. -/
theorem keyParameters_cases {text : String} (said : (s.parameters.get? bitLengthName).getD "256" = text) :
    (∃ key, s.keyParameters = .ok key ∧ Text.Denotes text key.bitLength ∧ key.bitLength < 2 ^ 32) ∨
      s.keyParameters = .error badBitLength ∧ ∀ n < 2 ^ 32, ¬Text.Denotes text n := by
  have own : s.withKeyDefaults.parameters.get? bitLengthName = some text :=
    said ▸ bitLength_withKeyDefaults
  unfold keyParameters
  dsimp only
  rw [own, Option.bind_some]
  cases read : Text.natural? maxBitLength text with
  | some n =>
    obtain ⟨denotes, le⟩ := Text.natural?_eq_some.1 read
    exact .inl ⟨_, rfl, denotes, Nat.lt_succ_of_le le⟩
  | none =>
    refine .inr ⟨rfl, fun n less denotes => ?_⟩
    cases read.symm.trans (Text.natural?_eq_some.2 ⟨denotes, Nat.le_of_lt_succ less⟩)

/-! ## Limits -/

theorem size_filled : s.filled.parameters.size = s.parameters.size + s.missing := by
  unfold filled missing
  by_cases supplied : s.hasMaterial = true
  · rw [if_pos supplied, if_pos supplied, Nat.add_zero]
  rw [if_neg supplied, if_neg supplied]
  show ((s.parameters.insertIfNew modeName _).insertIfNew bitLengthName _).size = _
  rw [Attributes.size_insertIfNew, Attributes.size_insertIfNew,
    Attributes.get?_insertIfNew_other modeName_ne.symm, Nat.add_assoc]

theorem entries_filled (kept : ∀ e ∈ s.parameters.entries, e.1.length ≤ 130 ∧ e.2.length ≤ 130) :
    ∀ e ∈ s.filled.parameters.entries, e.1.length ≤ 130 ∧ e.2.length ≤ 130 := by
  intro e member
  unfold filled at member
  by_cases supplied : s.hasMaterial = true
  · rw [if_pos supplied] at member
    exact kept e member
  rw [if_neg supplied] at member
  obtain rfl | member := Attributes.mem_insertIfNew member
  · decide
  obtain rfl | member := Attributes.mem_insertIfNew member
  · decide
  · exact kept e member

/-- All but the algorithm and the parameters is as it was. -/
theorem filled_others : s.filled = { s with
    algorithm := s.filled.algorithm, parameters := s.filled.parameters } := by
  unfold filled
  by_cases supplied : s.hasMaterial = true
  · rw [if_pos supplied]
  · rw [if_neg supplied]
    rfl

/-- A secret that keeps its limits still does with its key filled in, unless that makes too many parameters. -/
theorem withinLimits_filled (kept : s.WithinLimits) :
    s.filled.WithinLimits ↔ s.parameters.size + s.missing ≤ 30 := by
  rw [← size_filled]
  refine ⟨fun within => within.parameters.1, fun few => ?_⟩
  rw [filled_others]
  exact ⟨kept.name, kept.description, kept.tags, ⟨few, entries_filled kept.parameters.2⟩, kept.notes⟩

end Secret

end KeyCustody
