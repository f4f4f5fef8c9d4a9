/-!
# Lists of entries under keys

Maps, catalogs and vaults keep one entry a key: an entry is put in front, and another of its key goes.
-/

namespace KeyCustody.Keyed

variable {κ ν : Type} [BEq κ] [LawfulBEq κ] [DecidableEq κ] {k k' : κ} {v : ν} {l : List (κ × ν)}

theorem lookup_erase_self : (l.filter (·.1 ≠ k)).lookup k = none := by
  apply List.lookup_eq_none_iff.2
  intro e member
  have kept : e.1 ≠ k := of_decide_eq_true (List.mem_filter.1 member).2
  exact bne_iff_ne.2 (Ne.symm kept)

theorem lookup_erase_other (different : k' ≠ k) :
    (l.filter (·.1 ≠ k)).lookup k' = l.lookup k' := by
  induction l with
  | nil => rfl
  | cons e l ih =>
    obtain ⟨key, v⟩ := e
    by_cases same : key = k
    · subst key
      have skipped : (k' == k) = false := beq_eq_false_iff_ne.2 different
      rw [List.filter_cons_of_neg (by simp), List.lookup_cons, skipped]
      exact ih
    · rw [List.filter_cons_of_pos (by simpa using same), List.lookup_cons, List.lookup_cons, ih]

omit [BEq κ] [LawfulBEq κ] in
theorem erase_put : ((k, v) :: l.filter (·.1 ≠ k)).filter (·.1 ≠ k) = l.filter (·.1 ≠ k) := by
  simp

omit [BEq κ] [LawfulBEq κ] in
theorem erase_unused (unused : ∀ e ∈ l, e.1 ≠ k) : l.filter (·.1 ≠ k) = l :=
  List.filter_eq_self.2 fun e member => by simpa using unused e member

theorem lookup_put_self : ((k, v) :: l.filter (·.1 ≠ k)).lookup k = some v :=
  List.lookup_cons_self

theorem lookup_put_other (different : k' ≠ k) :
    ((k, v) :: l.filter (·.1 ≠ k)).lookup k' = l.lookup k' := by
  have skipped : (k' == k) = false := by simpa using different
  rw [List.lookup_cons, skipped]
  exact lookup_erase_other different

omit [BEq κ] [LawfulBEq κ] in
theorem nodup_erase (h : (l.map (·.1)).Nodup) : ((l.filter (·.1 ≠ k)).map (·.1)).Nodup :=
  h.sublist (List.filter_sublist.map _)

omit [BEq κ] [LawfulBEq κ] in
theorem nodup_put (h : (l.map (·.1)).Nodup) :
    (((k, v) :: l.filter (·.1 ≠ k)).map (·.1)).Nodup := by
  refine List.nodup_cons.2 ⟨?_, nodup_erase h⟩
  intro member
  obtain ⟨e, kept, same⟩ := List.mem_map.1 member
  simp [same] at kept

omit [DecidableEq κ] in
theorem lookup_missing (missing : k ∉ l.map (·.1)) : l.lookup k = none :=
  List.lookup_eq_none_iff.2 fun _ member => bne_iff_ne.2 fun same => missing (same ▸ List.mem_map_of_mem member)

/-- With one entry a key, the entries are what is looked up. -/
theorem lookup_eq_some_iff (h : (l.map (·.1)).Nodup) : l.lookup k = some v ↔ (k, v) ∈ l := by
  induction l with
  | nil => simp
  | cons e l ih =>
    obtain ⟨key, found⟩ := e
    obtain ⟨fresh, rest⟩ := List.nodup_cons.1 h
    by_cases same : k = key
    · subst key
      have absent : (k, v) ∉ l := fun member => fresh (List.mem_map.2 ⟨_, member, rfl⟩)
      simp [absent, eq_comm]
    · have skipped : (k == key) = false := beq_eq_false_iff_ne.2 same
      simp [List.lookup_cons, skipped, ih rest, same]

/-- With one entry a key, entries that are looked up alike are the same but for their order. -/
theorem perm_of_lookup {l' : List (κ × ν)} (h : (l.map (·.1)).Nodup) (h' : (l'.map (·.1)).Nodup)
    (same : ∀ k, l.lookup k = l'.lookup k) : l.Perm l' := by
  have once : ∀ {l : List (κ × ν)}, (l.map (·.1)).Nodup → l.Nodup := fun keys =>
    (List.pairwise_map.1 keys).imp fun different same => different (congrArg Prod.fst same)
  refine (List.perm_ext_iff_of_nodup (once h) (once h')).2 fun e => ?_
  rw [← lookup_eq_some_iff h, ← lookup_eq_some_iff h', same]

/-- With one entry a key, what is looked up is one of the entries, and the others are under other keys. -/
theorem perm_cons_erase (h : (l.map (·.1)).Nodup) (found : l.lookup k = some v) :
    l.Perm ((k, v) :: l.filter (·.1 ≠ k)) := by
  induction l with
  | nil => cases found
  | cons e l ih =>
    obtain ⟨key, v'⟩ := e
    obtain ⟨fresh, rest⟩ := List.nodup_cons.1 h
    by_cases same : k = key
    · subst key
      obtain rfl : v' = v := by simpa using found
      have others : l.filter (·.1 ≠ k) = l :=
        erase_unused fun e member same => fresh (List.mem_map.2 ⟨e, member, same⟩)
      rw [List.filter_cons_of_neg (by simp), others]
    · have skipped : (k == key) = false := beq_eq_false_iff_ne.2 same
      rw [List.lookup_cons, skipped] at found
      rw [List.filter_cons_of_pos (by simpa using Ne.symm same)]
      exact ((ih rest found).cons _).trans (List.Perm.swap ..)

end KeyCustody.Keyed
