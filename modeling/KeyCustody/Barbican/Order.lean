import KeyCustody.Error
import KeyCustody.Json.Value

/-!
# Orders and payload types of the Barbican API

What a request to generate a key says, how far an order has come, and the two forms in which a
payload is fetched.
-/

namespace KeyCustody.Barbican

inductive PayloadType where
  /-- Raw bytes, handed on in base64. -/
  | bytes
  | text
  deriving DecidableEq, Repr

namespace PayloadType

def mime : PayloadType → String
  | bytes => "application/octet-stream"
  | text => "text/plain"

def read (mime : String) : Except Error PayloadType :=
  if mime = bytes.mime then .ok bytes
  else if mime = text.mime then .ok text
  else .error (.validation ("Invalid accept header given: " ++ mime) "accept")

end PayloadType

structure KeyRequest where
  name : String
  algorithm : String
  bitLength : Nat
  mode : String
  payloadType : String
  deriving DecidableEq, Repr

namespace KeyRequest

/-- An algorithm or mode that is empty is left out. -/
def toJson (r : KeyRequest) : Json :=
  let unlessEmpty name text := if text.isEmpty then [] else [(name, Json.string text)]
  .object [("type", .string "key"), ("meta", .object <|
    [("name", .string r.name)] ++ unlessEmpty "algorithm" r.algorithm ++
    [("bit_length", .nat r.bitLength)] ++ unlessEmpty "mode" r.mode ++
    [("payload_content_type", .string r.payloadType)])]

end KeyRequest

inductive OrderStatus where
  | pending
  /-- The material is there, under the reference given. -/
  | active (secretRef : String)
  /-- There will never be any material. -/
  | failed (reason : Option String)
  deriving DecidableEq, Repr

end KeyCustody.Barbican
