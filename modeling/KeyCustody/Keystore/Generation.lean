import KeyCustody.Error
import KeyCustody.Secret.Basic
import KeyCustody.Text.Number

/-!
# Parameters of generated keys

A request without material asks for a key. What it does not say about the key is filled in, and
stays in the record.
-/

namespace KeyCustody

namespace Keystore

def defaultAlgorithm : String := "AES"
def defaultMode : String := "GCM"
def defaultBitLength : Nat := 256

def modeName : String := "mode"
def bitLengthName : String := "bitLength"

def maxBitLength : Nat := 4294967295

structure KeyParameters where
  algorithm : String
  mode : String
  bitLength : Nat
  deriving DecidableEq, Repr

def badBitLength : Error := .validation "bitLength must be a positive integer" bitLengthName

end Keystore

namespace Secret

open Keystore

/-- The secret with what it does not say about its key filled in. -/
def withKeyDefaults (s : Secret) : Secret :=
  { s with
    algorithm := some (s.algorithm.getD defaultAlgorithm)
    parameters := (s.parameters.insertIfNew modeName defaultMode).insertIfNew bitLengthName
      (toString defaultBitLength) }

def keyParameters (s : Secret) : Except Error KeyParameters :=
  let full := s.withKeyDefaults
  match (full.parameters.get? bitLengthName).bind (Text.natural? maxBitLength) with
  | some bitLength =>
    .ok ⟨full.algorithm.getD "", (full.parameters.get? modeName).getD "", bitLength⟩
  | none => .error badBitLength

end Secret

end KeyCustody
