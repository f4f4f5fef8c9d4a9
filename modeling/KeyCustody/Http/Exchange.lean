import KeyCustody.Error
import KeyCustody.Http.Url
import KeyCustody.Json.Reader
import KeyCustody.Text.Base64

/-!
# Exchanges

A request is drafted from texts and becomes a request proper if it can be sent: its address is one
of the web, and its headers can be transmitted. The network answers it, or does not.
-/

namespace KeyCustody.Http

inductive Method where
  | get
  | post
  | patch
  | delete
  deriving DecidableEq, Repr

namespace Method

def name : Method → String
  | get => "GET"
  | post => "POST"
  | patch => "PATCH"
  | delete => "DELETE"

end Method

structure Draft where
  method : Method
  url : String
  query : List (String × String)
  headers : List (String × String)
  body : Option Json

structure Request where
  method : Method
  url : Url
  headers : List (String × String)
  body : Option Json

/-- An answer; the body is missing if the connection ended before all of it had come. -/
structure Reply where
  status : Nat
  body : Option (List UInt8)
  deriving Repr

/-- What carries requests to where they belong, and answers back. -/
abbrev Network (m : Type → Type) := Request → m (Option Reply)

/-- Where a service is, without a slash at its end. -/
structure Endpoint where
  base : String
  deriving Repr

namespace Endpoint

def ofUrl (url : String) : Endpoint :=
  ⟨String.ofList ((url.toList.reverse.dropWhile (· = '/')).reverse)⟩

def url (e : Endpoint) (path : String) : String := e.base ++ path

end Endpoint

/-! ## Requests -/

def undraftable : Error := .transport "builder error"

def unreachable (u : Url) : Error := .transport ("builder error for url (" ++ toString u ++ ")")

def unanswered (u : Url) : Error :=
  .transport ("error sending request for url (" ++ toString u ++ ")")

/-- The error of an answer that is cut off or does not have the form it should have. -/
def undecodable : Error := .transport "error decoding response body"

/-- Whether a text can be the value of a header: it has no controls but tabs. -/
def isHeaderText (text : String) : Bool :=
  text.toList.all fun c => (0x20 ≤ c.toNat && c.toNat ≠ 0x7F) || c = '\t'

def maxAddress : Nat := 65534

/-- Whether a request line can hold the address: it is not too long, and its host has no characters
that would have to be encoded. -/
def fitsRequestLine (u : Url) : Bool :=
  let host := u.authority.elim "" fun a => toString a.host
  (toString { u with fragment := none }).utf8ByteSize ≤ maxAddress &&
    !host.toList.any ['"', Char.ofNat 0x60, '{', '}'].contains

/-- A part of a login as it was before it was encoded; it has to be text. -/
def decodedText? (text : String) : Option String :=
  Text.Utf8.decode? (Percent.decode text.toUTF8.toList)

/-- Moves the login of an address into a header. -/
def takeLogin (u : Url) : Url × List (String × String) :=
  match u.authority with
  | none => (u, [])
  | some a =>
    match u.hasLogin, decodedText? a.user with
    | true, some user =>
      let password := (a.password.bind decodedText?).getD ""
      let login := Text.Base64.encode (user ++ ":" ++ password).toUTF8.toList
      (u.withoutLogin, [("authorization", "Basic " ++ login)])
    | _, _ => (u, [])

namespace Draft

/-- The request of a draft. The address is looked at first, then the headers, then whether the
address is of a kind to which requests can be sent. -/
def prepare (d : Draft) : Except Error Request := do
  let some u := Url.read? d.url | throw undraftable
  if !u.hasHost then throw (unreachable u)
  let (u, login) := takeLogin u
  if !d.headers.all fun h => isHeaderText h.2 then throw undraftable
  let u := u.addQuery d.query
  if u.scheme ≠ "http" ∧ u.scheme ≠ "https" then throw (unreachable u)
  if !fitsRequestLine u then throw (unreachable u)
  return ⟨d.method, u, login ++ d.headers, d.body⟩

end Draft

def exchange {m : Type → Type} [Monad m] (network : Network m) (d : Draft) :
    ExceptT Error m Reply := do
  let r ← d.prepare
  match ← network r with
  | some reply => return reply
  | none => throw (unanswered r.url)

/-! ## Replies -/

namespace Reply

def bytes (r : Reply) : Except Error (List UInt8) :=
  match r.body with
  | some bytes => .ok bytes
  | none => .error undecodable

/-- What a body means as JSON. -/
def decode? {α : Type} (read : Json → Option α) (body : List UInt8) : Option α :=
  (Json.readBytes? body).bind read

def json {α : Type} (read : Json → Option α) (r : Reply) : Except Error α := do
  match decode? read (← r.bytes) with
  | some a => return a
  | none => throw undecodable

end Reply

end KeyCustody.Http
