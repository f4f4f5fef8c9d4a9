import KeyCustody.Error

/-!
# Violated limits

A field that breaks its limits, with what is wrong about it, and the error that reports such fields.
-/

namespace KeyCustody

structure Violation where
  field : String
  messages : List String
  deriving DecidableEq, Repr

namespace Violation

def text (v : Violation) : String :=
  v.field ++ ": " ++ ", ".intercalate v.messages

/-- Violations in the order of their fields. -/
def inOrder (found : List Violation) : List Violation :=
  found.mergeSort fun v w => v.field ≤ w.field

/-- The error that reports violated fields, whatever order they were found in; it names the field
only if there is no other. -/
def report (found : List Violation) : Error :=
  .validation ("Validation failed: " ++ "; ".intercalate ((inOrder found).map text))
    (match found with
      | [v] => some v.field
      | _ => none)

/-- Accepts what violates nothing. -/
def check (found : List Violation) : Except Error Unit :=
  if found.isEmpty then .ok () else .error (report found)

end Violation

end KeyCustody
