import KeyCustody.Settings.VariableFile
import Mathlib.Data.List.Nodup

/-!
# Variables from a file

A file of variables is a row of assignments. Each adds its variable unless that is set already, in the environment or by
an assignment before it.
-/

namespace KeyCustody.Settings

open Text

variable {vars more : Variables} {name : String} {e : String × String}

namespace Variables

theorem addMissing_cons (e : String × String) (more vars : Variables) :
    addMissing (e :: more) vars = addMissing more (addMissing [e] vars) :=
  rfl

theorem addMissing_singleton (e : String × String) (vars : Variables) :
    addMissing [e] vars = if (vars.lookup e.1).isSome then vars else vars ++ [e] :=
  rfl

theorem lookup_addMissing (more vars : Variables) :
    (addMissing more vars).lookup name = (vars.lookup name).or (more.lookup name) := by
  induction more generalizing vars with
  | nil => rw [List.lookup_nil, Option.or_none]; rfl
  | cons e more ih =>
    obtain ⟨key, text⟩ := e
    rw [addMissing_cons, ih, addMissing_singleton, List.lookup_cons]
    by_cases same : name = key
    · subst same
      rw [beq_self_eq_true]
      cases found : vars.lookup name with
      | some _ => rw [Option.isSome_some, if_pos rfl, found]; rfl
      | none => simp [List.lookup_append, found]
    · have skipped : (name == key) = false := beq_eq_false_iff_ne.2 same
      rw [skipped]
      by_cases set : (vars.lookup key).isSome = true
      · rw [if_pos set]
      · rw [if_neg set, List.lookup_append, List.lookup_cons, skipped, List.lookup_nil, Option.or_none]

theorem nodup_addMissing (once : (vars.map (·.1)).Nodup) (more : Variables) :
    ((addMissing more vars).map (·.1)).Nodup := by
  induction more generalizing vars with
  | nil => exact once
  | cons e more ih =>
    rw [addMissing_cons]
    refine ih ?_
    rw [addMissing_singleton]
    split
    next => exact once
    next unset =>
      have fresh : e.1 ∉ vars.map (·.1) := fun member => by
        obtain ⟨found, there, same⟩ := List.mem_map.1 member
        have none := Option.not_isSome_iff_eq_none.1 unset
        exact bne_iff_ne.1 (List.lookup_eq_none_iff.1 none found there) same.symm
      rw [List.map_append, List.map_singleton]
      exact List.nodup_append'.2 ⟨once, List.nodup_singleton _, List.disjoint_singleton.2 fresh⟩

theorem mem_addMissing (h : e ∈ addMissing more vars) : e ∈ vars ∨ e ∈ more := by
  induction more generalizing vars with
  | nil => exact .inl h
  | cons e' more ih =>
    rw [addMissing_cons, addMissing_singleton] at h
    obtain before | later := ih h
    · split at before
      · exact .inl before
      · obtain old | new := List.mem_append.1 before
        · exact .inl old
        · exact .inr (List.mem_singleton.1 new ▸ List.mem_cons_self)
    · exact .inr (List.mem_cons_of_mem _ later)

end Variables

namespace VariableFile

/-- The assignments of lines, up to the first malformed line. A value may refer to variables that are set and to those
of lines before it. -/
def assigned : List (Option (List Char)) → (vars known : Variables) → Variables
  | [], _, _ => []
  | none :: _, _, _ => []
  | some line :: rest, vars, known =>
    match stripped line with
    | [] => assigned rest vars known
    | '#' :: _ => assigned rest vars known
    | cs =>
      match assignment? (resolve vars known) cs with
      | none => []
      | some e => e :: assigned rest (Variables.addMissing [e] vars) (e :: known)

theorem setAll_eq (lines : List (Option (List Char))) (vars known : Variables) :
    setAll lines vars known = Variables.addMissing (assigned lines vars known) vars := by
  induction lines generalizing vars known with
  | nil => rfl
  | cons line rest ih =>
    cases line with
    | none => rfl
    | some line =>
      rw [setAll, assigned]
      generalize stripped line = cs
      split
      next => exact ih vars known
      next => exact ih vars known
      next =>
        cases read : assignment? (resolve vars known) cs with
        | none =>
          simp only [read]
          rfl
        | some e =>
          simp only [read]
          exact ih _ _

/-- The assignments of a file. -/
def assignments (text : String) (vars : Variables) : Variables :=
  let cs := match text.toList with
    | c :: cs => if c.toNat = 0xFEFF then cs else c :: cs
    | [] => []
  assigned (lines .closed [] (rawLines cs)) vars []

theorem load_eq (text : String) (vars : Variables) :
    load text vars = Variables.addMissing (assignments text vars) vars :=
  setAll_eq _ vars []

end VariableFile

end KeyCustody.Settings
