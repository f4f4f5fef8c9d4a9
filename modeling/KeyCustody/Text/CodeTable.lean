import KeyCustody.Text.CharSet

/-!
# Tables of code points

What belongs to code points, in ascending order. A table is written in rows of entries with blanks
between them. An entry is a code point, `=`, and numbers with commas between them; after a semicolon
those of the next code point may follow.
-/

namespace KeyCustody.Text

structure CodeTable where
  points : Array Nat
  /-- What belongs to each of the points. -/
  values : Array (List Nat)

namespace CodeTable

/-- The values of an entry, one after another. -/
def entryValues (cs : List Char) : List (List Nat) :=
  (splitWhere (· = ';') cs).map fun value => (splitWhere (· = ',') value).filterMap hexNumber?

/-- Adds the code points of an entry. -/
def add (t : CodeTable) (entry : List Char) : CodeTable :=
  let start := (hexNumber? (entry.takeWhile (· ≠ '='))).getD 0
  let values := entryValues ((entry.dropWhile (· ≠ '=')).drop 1)
  ⟨t.points ++ (List.range values.length).map (start + ·), t.values ++ values⟩

def ofRows (rows : List String) : CodeTable :=
  rows.foldl (fun t row => (splitWhere (· = ' ') row.toList).foldl add t) ⟨#[], #[]⟩

/-- The last code point of the table up to this one, and what belongs to it. -/
def upTo? (t : CodeTable) (n : Nat) : Option (Nat × List Nat) := do
  let count := countUpTo t.points n 0 t.points.size
  if count = 0 then none
  return (← t.points[count - 1]?, ← t.values[count - 1]?)

/-- What belongs to this code point. -/
def find? (t : CodeTable) (n : Nat) : Option (List Nat) := do
  let (point, value) ← t.upTo? n
  if point = n then some value else none

end CodeTable

end KeyCustody.Text
