import Mathlib.Data.List.Nodup
import KeyCustody.Proofs.Keyed
import KeyCustody.Settings.Value

/-!
# Tables laid over each other

A table that is laid over another replaces the entries it has and leaves the others. Laid over the sections of settings, a
section or a single field so replaces the fields it mentions, one by one.
-/

namespace KeyCustody.Settings.Value

variable {name name' part part' : String} {v below : Value} {es fields : List (String × Value)}

/-! ## Entries -/

theorem entry_cons_self : entry name ((name, v) :: es) = v := by
  rw [entry, List.lookup_cons_self, Option.getD_some]

theorem entry_cons_other (other : name ≠ name') : entry name ((name', v) :: es) = entry name es := by
  have skipped : (name == name') = false := beq_eq_false_iff_ne.2 other
  rw [entry, List.lookup_cons, skipped, entry]

theorem entry_missing (missing : name ∉ es.map (·.1)) : entry name es = nothing := by
  rw [entry, Keyed.lookup_missing missing, Option.getD_none]

theorem entry_put : entry name' (put name v es) = if name' = name then v else entry name' es := by
  induction es with
  | nil =>
    by_cases same : name' = name
    · subst same
      rw [if_pos rfl, put, entry_cons_self]
    · rw [if_neg same, put, entry_cons_other same]
  | cons e es ih =>
    obtain ⟨key, value⟩ := e
    by_cases found : key = name
    · subst found
      rw [put, if_pos rfl]
      by_cases same : name' = key
      · subst same
        rw [if_pos rfl, entry_cons_self]
      · rw [if_neg same, entry_cons_other same, entry_cons_other same]
    · rw [put, if_neg found]
      by_cases own : name' = key
      · subst own
        rw [if_neg found, entry_cons_self, entry_cons_self]
      · rw [entry_cons_other own, entry_cons_other own]
        exact ih

/-- What the entries of a name come to when they are laid over a value. -/
def laid (name : String) (es : List (String × Value)) (below : Value) : Value :=
  ((es.lookup name).map (above · below)).getD below

theorem laid_cons_self : laid name ((name, v) :: es) below = above v below := by
  rw [laid, List.lookup_cons_self, Option.map_some, Option.getD_some]

theorem laid_cons_other (other : name ≠ name') : laid name ((name', v) :: es) below = laid name es below := by
  have skipped : (name == name') = false := beq_eq_false_iff_ne.2 other
  rw [laid, laid, List.lookup_cons, skipped]

theorem laid_missing (missing : name ∉ es.map (·.1)) : laid name es below = below := by
  rw [laid, Keyed.lookup_missing missing, Option.map_none, Option.getD_none]

theorem entry_aboveAll (once : (es.map (·.1)).Nodup) (below : List (String × Value)) :
    entry name (aboveAll es below) = laid name es (entry name below) := by
  induction es generalizing below with
  | nil => rw [aboveAll]; rfl
  | cons e es ih =>
    obtain ⟨key, v⟩ := e
    obtain ⟨fresh, rest⟩ := List.nodup_cons.1 once
    rw [aboveAll, ih rest, entry_put]
    by_cases same : name = key
    · subst same
      rw [if_pos rfl, laid_cons_self, laid_missing fresh]
    · rw [if_neg same, laid_cons_other same]

theorem put_fresh (fresh : name ∉ es.map (·.1)) : put name v es = es ++ [(name, v)] := by
  induction es with
  | nil => rfl
  | cons e es ih =>
    obtain ⟨other, missing⟩ := not_or.1 (List.mem_cons.not.1 fresh)
    rw [put, if_neg (Ne.symm other), ih missing, List.cons_append]

theorem names_aboveAll (below : List (String × Value)) (once : (below.map (·.1) ++ es.map (·.1)).Nodup) :
    (aboveAll es below).map (·.1) = below.map (·.1) ++ es.map (·.1) := by
  induction es generalizing below with
  | nil => rw [aboveAll, List.map_nil, List.append_nil]
  | cons e es ih =>
    obtain ⟨key, v⟩ := e
    have fresh : key ∉ below.map (·.1) := fun member =>
      List.disjoint_of_nodup_append once member List.mem_cons_self
    have names : ((below ++ [(key, above v (entry key below))]).map (·.1)) ++ es.map (·.1) =
        below.map (·.1) ++ key :: es.map (·.1) := by
      rw [List.map_append, List.append_assoc]
      rfl
    rw [aboveAll, put_fresh fresh, ih _ (names ▸ once), names]
    rfl

theorem toVariant?_congr {α : Type} {named : String → Option α} {es es' : List (String × Value)}
    (same : es.map (·.1) = es'.map (·.1)) : toVariant? named (.table es) = toVariant? named (.table es') := by
  match es, es', same with
  | [], [], _ => rfl
  | [(_, _)], [(_, _)], same => exact congrArg named (List.cons.inj same).1
  | _ :: _ :: _, _ :: _ :: _, _ => rfl

/-! ## Fields of sections -/

/-- The value of a field of a section, or nothing. -/
def fieldOf (part name : String) (v : Value) : Value :=
  entry name (entry part v.entries).entries

/-- Every section is there as a table. -/
def Sectioned (v : Value) : Prop :=
  ∃ es, v = .table es ∧ ∀ part ∈ Settings.fieldNames, ∃ fields, entry part es = .table fields

theorem fieldOf_put : fieldOf part' name' (.table (put part v es)) =
    if part' = part then entry name' v.entries else fieldOf part' name' (.table es) := by
  rw [fieldOf, entries, entry_put]
  by_cases same : part' = part
  · rw [if_pos same, if_pos same]
  · rw [if_neg same, if_neg same, fieldOf, entries]

theorem Sectioned.put (sectioned : Sectioned (.table es)) : Sectioned (.table (put part (.table fields) es)) := by
  obtain ⟨_, ⟨⟩, sections⟩ := sectioned
  refine ⟨_, rfl, fun part' known => ?_⟩
  rw [entry_put]
  by_cases same : part' = part
  · exact ⟨fields, if_pos same⟩
  · rw [if_neg same]
    exact sections part' known

theorem fieldOf_putAt_field (below : Value) : fieldOf part' name' (putAt [.name part, .name name] v below) =
    if part' = part ∧ name' = name then above v (fieldOf part name below) else fieldOf part' name' below := by
  rw [putAt, putAt, putAt, fieldOf_put]
  by_cases own : part' = part
  · subst own
    rw [if_pos rfl, entries, entry_put]
    by_cases same : name' = name
    · rw [if_pos same, if_pos ⟨rfl, same⟩]
      rfl
    · rw [if_neg same, if_neg fun both => same both.2]
      rfl
  · rw [if_neg own, if_neg fun both => own both.1]
    rfl

theorem fieldOf_putAt_section (once : (fields.map (·.1)).Nodup) (below : Value) :
    fieldOf part' name' (putAt [.name part] (.table fields) below) =
      if part' = part then laid name' fields (fieldOf part' name' below) else fieldOf part' name' below := by
  rw [putAt, putAt, fieldOf_put]
  by_cases same : part' = part
  · subst same
    rw [if_pos rfl, if_pos rfl, above, entries, entry_aboveAll once]
    rfl
  · rw [if_neg same, if_neg same]
    rfl

theorem Sectioned.putAt_field (sectioned : Sectioned below) : Sectioned (putAt [.name part, .name name] v below) := by
  obtain ⟨es, rfl, sections⟩ := sectioned
  exact Sectioned.put ⟨es, rfl, sections⟩

theorem Sectioned.putAt_section (sectioned : Sectioned below) :
    Sectioned (putAt [.name part] (.table fields) below) := by
  obtain ⟨es, rfl, sections⟩ := sectioned
  rw [putAt, putAt, above]
  exact Sectioned.put ⟨es, rfl, sections⟩

end KeyCustody.Settings.Value
