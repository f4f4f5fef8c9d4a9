import KeyCustody.Catalog.Basic
import KeyCustody.Http.Exchange
import KeyCustody.Http.Status
import KeyCustody.Secret.Wire
import KeyCustody.Text.Utf8

/-!
# A catalog over HTTP

One request for each operation. Any status of success will do; a missing record is told apart where
one record is meant, and any other answer is an error with the text of its body.
-/

namespace KeyCustody.Catalog

open Http Json

namespace Rest

def secretsPath : String := "/api/v1/secrets"

def recordPath (id : String) : String := secretsPath ++ "/" ++ id

def totalPath : String := secretsPath ++ "/total"

def headers (caller : Caller) : List (String × String) :=
  [("bluemix-space", caller.tenant.space), ("bluemix-org", caller.tenant.org),
    ("correlation-id", caller.correlationId)] ++
    caller.authorization.toList.map fun token => ("authorization", token.expose)

def parameters (q : Query) : List (String × String) :=
  [("limit", toString q.limit), ("offset", toString q.offset)]

/-! ## Replies -/

/-- The text of a body, damaged places replaced; there is none if it is cut off. -/
def bodyText (r : Reply) : String :=
  String.ofList (Text.Utf8.decodeLossy (r.body.getD []))

def message (r : Reply) : String :=
  if (bodyText r).isEmpty then (reason? r.status).getD "Unexpected response" else bodyText r

def expectSuccess (r : Reply) : Except Error Unit :=
  if isSuccess r.status then .ok () else .error (.catalog (message r) (some r.status))

def expectRecord (id : String) (r : Reply) : Except Error Unit :=
  if r.status = 404 then .error (.noSecret id) else expectSuccess r

def page? (j : Json) : Option (List Secret) := do
  let fields ← j.record? ["secrets"] 0
  field? fields "secrets" (fun j => do (← j.asArray?).mapM Secret.ofJson?) (some [])

/-- The largest number of records that can be answered. -/
def maxTotal : Nat := 18446744073709551615

def total? (j : Json) : Option Nat := do
  let fields ← j.record? ["total"] 1
  field? fields "total" (asNat? maxTotal) none

def createReply (r : Reply) : Except Error Secret := do
  expectSuccess r
  r.json Secret.ofJson?

def getReply (r : Reply) : Except Error (Option Secret) := do
  if r.status = 404 then return none
  expectSuccess r
  some <$> r.json Secret.ofJson?

def deleteReply (id : String) (r : Reply) : Except Error Secret := do
  expectRecord id r
  r.json Secret.ofJson?

def listReply (r : Reply) : Except Error (List Secret) := do
  expectSuccess r
  r.json page?

def totalReply (r : Reply) : Except Error Nat := do
  expectSuccess r
  r.json total?

end Rest

open Rest

def overHttp {m : Type → Type} [Monad m] (network : Network m) (e : Endpoint) : Catalog m where
  create caller s := do
    createReply (← exchange network
      ⟨.post, e.url secretsPath, [], Rest.headers caller, some s.toJson⟩)
  get caller id := do
    getReply (← exchange network ⟨.get, e.url (recordPath id), [], Rest.headers caller, none⟩)
  change caller id c := do
    expectRecord id (← exchange network
      ⟨.patch, e.url (recordPath id), [], Rest.headers caller, some c.toJson⟩)
  delete caller id := do
    deleteReply id (← exchange network
      ⟨.delete, e.url (recordPath id), [], Rest.headers caller, none⟩)
  list caller q := do
    listReply (← exchange network
      ⟨.get, e.url secretsPath, parameters q, Rest.headers caller, none⟩)
  total caller q := do
    totalReply (← exchange network
      ⟨.get, e.url totalPath, parameters q, Rest.headers caller, none⟩)

end KeyCustody.Catalog
