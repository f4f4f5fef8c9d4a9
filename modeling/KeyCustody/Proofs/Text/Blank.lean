import KeyCustody.Text.Blank
import Mathlib.Data.List.TakeWhile

/-!
# Texts trimmed and texts removed

What is left of a text without the blanks at its ends, and without the places where another text stands in it.
-/

namespace KeyCustody.Text

variable {p : Char → Bool} {what cs ds : List Char} {c : Char}

/-- What is left between the characters at both ends that satisfy `p`. -/
structure Strips (p : Char → Bool) (cs ds : List Char) : Prop where
  ends : ∃ before after, cs = before ++ ds ++ after ∧ (∀ c ∈ before, p c = true) ∧ ∀ c ∈ after, p c = true
  first : ∀ c ∈ ds.head?, p c = false
  last : ∀ c ∈ ds.getLast?, p c = false

theorem head?_dropWhile (h : c ∈ (cs.dropWhile p).head?) : p c = false := by
  have found := List.head?_dropWhile_not p cs
  rw [h] at found
  exact found

theorem strips_stripWhere (p : Char → Bool) (cs : List Char) : Strips p cs (stripWhere p cs) := by
  have front : cs.takeWhile p ++ cs.dropWhile p = cs := List.takeWhile_append_dropWhile
  have back : stripWhere p cs ++ ((cs.dropWhile p).reverse.takeWhile p).reverse = cs.dropWhile p := by
    rw [stripWhere, ← List.reverse_append, List.takeWhile_append_dropWhile, List.reverse_reverse]
  refine ⟨⟨cs.takeWhile p, ((cs.dropWhile p).reverse.takeWhile p).reverse, ?_, ?_, ?_⟩, ?_, ?_⟩
  · rw [List.append_assoc, back, front]
  · exact fun c member => List.mem_takeWhile_imp member
  · exact fun c member => List.mem_takeWhile_imp (List.mem_reverse.1 member)
  · intro c first
    have head : c ∈ (cs.dropWhile p).head? := by
      rw [← back, List.head?_append, first]
      rfl
    exact head?_dropWhile head
  · intro c last
    rw [stripWhere, List.getLast?_reverse] at last
    exact head?_dropWhile last

/-- The text without the places where another stands in it, found from left to right. -/
inductive Removes (what : List Char) : List Char → List Char → Prop
  | nil : Removes what [] []
  | found (cs ds : List Char) (rest : Removes what cs ds) : Removes what (what ++ cs) ds
  | kept (c : Char) (cs ds : List Char) (other : ¬what <+: c :: cs) (rest : Removes what cs ds) :
    Removes what (c :: cs) (c :: ds)

theorem removes_removeAll (some : what ≠ []) (cs : List Char) : Removes what cs (removeAll what cs) := by
  induction what, cs using removeAll.induct with
  | case1 => exact absurd rfl some
  | case2 => rw [removeAll]; exact .nil
  | case3 w ws c cs rest found ih =>
    rw [removeAll]
    split
    next rest' found' =>
      cases found.symm.trans found'
      rw [after?_eq_some_iff.1 found]
      exact .found _ _ (ih some)
    next missing => cases found.symm.trans missing
  | case4 w ws c cs missing ih =>
    rw [removeAll]
    split
    next rest found => cases missing.symm.trans found
    next =>
      refine .kept _ _ _ ?_ (ih some)
      rintro ⟨rest, found⟩
      cases missing.symm.trans (after?_eq_some_iff.2 found.symm)

end KeyCustody.Text
