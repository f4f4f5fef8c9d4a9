/-!
# Sealed texts

Key material and credentials: texts that print as a mask. `expose` is the only way to the text.
-/

namespace KeyCustody

structure Sealed where
  expose : String
  deriving DecidableEq

namespace Sealed

/-- What stands for a sealed text wherever it is shown or written. -/
def mask : String := "[REDACTED]"

instance : ToString Sealed := ⟨fun _ => mask⟩

/-- The description of a sealed text, which does not depend on it. -/
def describe (_ : Sealed) : String := "SecretString(" ++ mask ++ ")"

def isEmpty (s : Sealed) : Bool := s.expose.isEmpty

def length (s : Sealed) : Nat := s.expose.length

end Sealed

end KeyCustody
