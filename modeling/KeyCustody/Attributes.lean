/-!
# Attributes

Named texts in the order of their names, each name once. The order is part of the type, so two
collections with the same contents are equal.
-/

namespace KeyCustody

structure Attributes where
  entries : List (String × String)
  sorted : entries.Pairwise fun a b => a.1 < b.1
  deriving DecidableEq

namespace Attributes

def empty : Attributes := ⟨[], .nil⟩

instance : EmptyCollection Attributes := ⟨empty⟩
instance : Inhabited Attributes := ⟨empty⟩

/-- Puts an entry in its place; an entry of the same name gives way. -/
def put (name text : String) : List (String × String) → List (String × String)
  | [] => [(name, text)]
  | e :: es =>
    if name < e.1 then (name, text) :: e :: es
    else if name = e.1 then (name, text) :: es
    else e :: put name text es

theorem mem_put {name text : String} {es : List (String × String)} {e : String × String}
    (h : e ∈ put name text es) : e = (name, text) ∨ e ∈ es := by
  induction es with
  | nil => simpa [put] using h
  | cons x xs ih =>
    simp only [put] at h
    split at h
    · simpa using h
    · split at h
      · rcases List.mem_cons.1 h with h | h
        · exact .inl h
        · exact .inr (List.mem_cons_of_mem _ h)
      · rcases List.mem_cons.1 h with h | h
        · exact .inr (h ▸ List.mem_cons_self)
        · exact (ih h).imp_right (List.mem_cons_of_mem _)

theorem sorted_put {name text : String} {es : List (String × String)}
    (h : es.Pairwise fun a b => a.1 < b.1) : (put name text es).Pairwise fun a b => a.1 < b.1 := by
  induction es with
  | nil => simp [put]
  | cons x xs ih =>
    rw [List.pairwise_cons] at h
    simp only [put]
    split
    · rename_i lt
      refine List.pairwise_cons.2 ⟨?_, List.pairwise_cons.2 h⟩
      intro e he
      rcases List.mem_cons.1 he with rfl | he
      · exact lt
      · exact String.lt_trans lt (h.1 e he)
    · rename_i notLt
      split
      · rename_i eq
        exact List.pairwise_cons.2 ⟨fun e he => eq ▸ h.1 e he, h.2⟩
      · rename_i ne
        refine List.pairwise_cons.2 ⟨fun e he => ?_, ih h.2⟩
        rcases mem_put he with rfl | he
        · exact Std.lt_of_le_of_ne (String.not_lt.1 notLt) (Ne.symm ne)
        · exact h.1 e he

def insert (a : Attributes) (name text : String) : Attributes :=
  ⟨put name text a.entries, sorted_put a.sorted⟩

def get? (a : Attributes) (name : String) : Option String :=
  a.entries.lookup name

def size (a : Attributes) : Nat := a.entries.length

/-- Adds an entry unless the name is taken. -/
def insertIfNew (a : Attributes) (name text : String) : Attributes :=
  if (a.get? name).isSome then a else a.insert name text

/-- The entries of a list, later ones before earlier ones of the same name. -/
def ofList (es : List (String × String)) : Attributes :=
  es.foldl (fun a e => a.insert e.1 e.2) empty

end Attributes

end KeyCustody
