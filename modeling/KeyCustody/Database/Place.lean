import KeyCustody.Text.Blank

/-!
# Places

Where a database is kept: in a file of the directory it is opened from, or of one above it. A
directory holds no directories, and a path is followed by its names alone, so that what it passes
through need not be there; but nothing lies below a file.
-/

namespace KeyCustody.Database

open Text

inductive Place where
  /-- A file, and how many directories above. -/
  | file (above : Nat) (name : List UInt8)
  /-- A name without a file. -/
  | named (name : List UInt8)
  deriving DecidableEq, Repr

namespace Place

def longestName : Nat := 255

/-- Whether a file may have this name, with as many bytes more at its end. -/
def fits (more : Nat) : Place → Bool
  | file _ name => name.length + more ≤ longestName
  | named _ => true

/-- The file beside this one whose name ends in this way. -/
def beside (suffix : List UInt8) : Place → Place
  | file above name => file above (name ++ suffix)
  | named name => named (name ++ suffix)

/-- How far a path has been followed: so many directories up, and down again by these names, of
which the last is the first. -/
structure Walk where
  above : Nat
  names : List (List UInt8)

/-- One step of a path. -/
def Walk.step? (isFile : Place → Bool) (w : Walk) (name : List UInt8) : Option Walk :=
  if name.isEmpty || name = [46] then some w
  else if name = [46, 46] then
    match w.names with
    | [] => some ⟨w.above + 1, []⟩
    | _ :: names => some ⟨w.above, names⟩
  else if longestName < name.length then none
  else
    match w.names with
    | [directory] =>
      if isFile (file w.above directory) then none else some ⟨w.above, name :: w.names⟩
    | names => some ⟨w.above, name :: names⟩

def ofPath? (isFile : Place → Bool) (path : List UInt8) : Option Place :=
  if path.head? = some 47 then none
  else
    match (splitWhere (· = 47) path).foldlM (Walk.step? isFile) ⟨0, []⟩ with
    | some ⟨above, [name]⟩ => some (file above name)
    | _ => none

end Place

end KeyCustody.Database
