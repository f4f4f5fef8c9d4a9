import KeyCustody.Barbican.Basic
import KeyCustody.Http.Exchange
import KeyCustody.Json.Record

/-!
# Barbican over HTTP

One request for each operation of the API. An answer counts only with the very status that the
operation promises; any other is an error that carries the status, with the text that Barbican or
the middleware in front of it gives. New resources are answered with an address, of which the last
segment is kept as the reference.
-/

namespace KeyCustody.Barbican.Rest

open Http Json

def secretsPath : String := "/v1/secrets"
def ordersPath : String := "/v1/orders"
def payloadPath : String := "/payload"

def headers (caller : Caller) : List (String × String) :=
  [("bluemix-space", caller.tenant.space), ("x-openstack-request-id", caller.correlationId)] ++
    caller.authorization.toList.map fun token => ("authorization", token.expose)

def acceptJson : List (String × String) := [("accept", "application/json")]

/-- The last segment of an address. -/
def parseRef (address : String) : String :=
  String.ofList ((address.toList.reverse.takeWhile (· ≠ '/')).reverse)

/-! ## Replies -/

/-- A title and a text, either of which may be missing. -/
def titled? (name : String) (j : Json) : Option (String × String) := do
  let fields ← j.record? ["title", name] 0
  return (← field? fields "title" asString? (some ""), ← field? fields name asString? (some ""))

/-- The text of the middleware, without its line breaks. -/
def plain (text : String) : String :=
  let breakless := Text.removeAll "<br />".toList (Text.trim text).toList
  String.ofList (Text.removeAll "<br>".toList breakless)

def unexplained : String := "Something went wrong.: Internal Server Error"

/-- What a body says about an error: a description by Barbican, else a message of the middleware. -/
def explanation (body : List UInt8) : String :=
  let described := (Reply.decode? (titled? "description") body).filter fun e => !e.2.isEmpty
  let reported := (Reply.decode? (titled? "message") body).filter fun e =>
    !e.1.isEmpty || !e.2.isEmpty
  match described, reported with
  | some (title, description), _ => title ++ ": " ++ description
  | none, some (title, message) => title ++ ": " ++ plain message
  | none, none => unexplained

def errorOf (r : Reply) : Error :=
  match r.bytes with
  | .ok body => .backend (explanation body) (some r.status)
  | .error error => error

def expect (status : Nat) (r : Reply) : Except Error Unit :=
  if r.status = status then .ok () else .error (errorOf r)

/-- The reference of a new resource, under the name of its address. -/
def newRef? (name : String) (j : Json) : Option String := do
  let fields ← j.record? [name] 1
  let address ← field? fields name asString? none
  return parseRef address

/-- How far an order has come. Material is there only if there is a reference to it. -/
def standing (status : String) (ref reason : Option String) : OrderStatus :=
  match status, ref with
  | "ACTIVE", some ref => .active ref
  | "ERROR", _ => .failed reason
  | _, _ => .pending

def orderStatus? (j : Json) : Option OrderStatus := do
  let fields ← j.record? ["secret_ref", "status", "error_reason"] 2
  let address ← field? fields "secret_ref" (nullable? asString?) (some none)
  let status ← field? fields "status" asString? none
  let reason ← field? fields "error_reason" (nullable? asString?) (some none)
  let ref := (address.map parseRef).filter fun ref => !ref.isEmpty
  return standing status ref reason

/-- Material of an answer: raw bytes in base64, or text as it is. -/
def payloadOf (type : PayloadType) (body : List UInt8) : Except Error Sealed :=
  match type with
  | .bytes => .ok ⟨Text.Base64.encode body⟩
  | .text =>
    match Text.Utf8.decode? body with
    | some text => .ok ⟨text⟩
    | none => .error (.backend "Payload is not valid UTF-8 text" none)

def postSecretReply (r : Reply) : Except Error String := do
  expect 201 r
  r.json (newRef? "secret_ref")

def postOrderReply (r : Reply) : Except Error String := do
  expect 202 r
  r.json (newRef? "order_ref")

def checkOrderReply (r : Reply) : Except Error OrderStatus := do
  expect 200 r
  r.json orderStatus?

def getPayloadReply (type : PayloadType) (r : Reply) : Except Error Sealed := do
  expect 200 r
  payloadOf type (← r.bytes)

def deleteSecretReply (r : Reply) : Except Error Unit :=
  expect 204 r

/-- What the body says about an order that could not be deleted is not looked at. -/
def deleteOrderReply (r : Reply) : Except Error Unit :=
  if r.status = 204 then .ok ()
  else .error (.backend "Unable to delete order" (some r.status))

end Rest

open Rest Http

def overHttp {m : Type → Type} [Monad m] (network : Network m) (e : Endpoint) : Barbican m where
  postSecret caller name payload type := do
    let body := Json.object [("name", .string name), ("payload", .string payload.expose),
      ("payload_content_type", .string type.mime)]
    postSecretReply (← exchange network
      ⟨.post, e.url secretsPath, [], Rest.headers caller, some body⟩)
  postOrder caller request := do
    postOrderReply (← exchange network
      ⟨.post, e.url ordersPath, [], Rest.headers caller, some request.toJson⟩)
  checkOrder caller ref := do
    checkOrderReply (← exchange network
      ⟨.get, e.url (ordersPath ++ "/" ++ ref), [], Rest.headers caller ++ acceptJson, none⟩)
  getPayload caller ref type := do
    getPayloadReply type (← exchange network
      ⟨.get, e.url (secretsPath ++ "/" ++ ref ++ payloadPath), [],
        Rest.headers caller ++ [("accept", type.mime)], none⟩)
  deleteSecret caller ref := do
    deleteSecretReply (← exchange network
      ⟨.delete, e.url (secretsPath ++ "/" ++ ref), [], Rest.headers caller, none⟩)
  deleteOrder caller ref := do
    deleteOrderReply (← exchange network
      ⟨.delete, e.url (ordersPath ++ "/" ++ ref), [], Rest.headers caller ++ acceptJson, none⟩)

end KeyCustody.Barbican
