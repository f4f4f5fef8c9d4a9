import KeyCustody.Http.Host

/-!
# Addresses

Absolute URLs, read as browsers read them: blanks around and line breaks within are dropped, dot
segments are resolved, characters that may not stand where they do are percent-encoded, and the
number of a socket that the scheme implies is left out. `toString` writes the normal form.
-/

namespace KeyCustody.Http

open Text

structure Authority where
  user : String
  password : Option String
  host : Host
  /-- The number of the socket at the host, unless the scheme implies it. -/
  socket : Option Nat
  deriving DecidableEq, Repr

structure Url where
  scheme : String
  authority : Option Authority
  path : String
  query : Option String
  fragment : Option String
  deriving DecidableEq, Repr

namespace Authority

instance : ToString Authority where
  toString a :=
    let login := match a.password with
      | some password => a.user ++ ":" ++ password ++ "@"
      | none => if a.user.isEmpty then "" else a.user ++ "@"
    login ++ toString a.host ++ (a.socket.elim "" fun n => ":" ++ toString n)

end Authority

namespace Url

instance : ToString Url where
  toString u :=
    u.scheme ++ ":" ++
      (match u.authority with
        | some a => "//" ++ toString a
        | none => if u.path.startsWith "//" then "/." else "") ++
      u.path ++ (u.query.elim "" ("?" ++ ·)) ++ (u.fragment.elim "" ("#" ++ ·))

/-- Whether the scheme is one of the web, which always has an authority and a path. -/
def isWebScheme (scheme : String) : Bool :=
  ["http", "https", "ws", "wss", "ftp"].contains scheme

def impliedSocket? (scheme : String) : Option Nat :=
  if scheme = "http" || scheme = "ws" then some 80
  else if scheme = "https" || scheme = "wss" then some 443
  else if scheme = "ftp" then some 21
  else none

/-- The text without blanks and controls at its ends, and without tabs and line breaks. -/
def clean (cs : List Char) : List Char :=
  (stripWhere (·.toNat ≤ 0x20) cs).filter fun c => c ≠ '\t' && c ≠ '\n' && c ≠ '\r'

/-- The scheme in lower case, and what follows its colon. -/
def scheme? (cs : List Char) : Option (String × List Char) :=
  let isSchemeChar (c : Char) : Bool := c.isAlphanum || c = '+' || c = '-' || c = '.'
  let name := cs.takeWhile isSchemeChar
  match name, cs.drop name.length with
  | c :: _, ':' :: rest =>
    if c.isAlpha then some (String.ofList (name.map Char.toLower), rest) else none
  | _, _ => none

/-- What stands before the first place where `stop` holds, and the rest. -/
def cut {α : Type} (stop : α → Bool) (cs : List α) : List α × List α :=
  (cs.takeWhile fun c => !stop c, cs.dropWhile fun c => !stop c)

/-- A slash, or in addresses of the web a backslash. -/
def isSlash (web : Bool) (c : Char) : Bool :=
  c = '/' || (web && c = '\\')

/-! ## Parts -/

def readTail (web : Bool) (cs : List Char) : Option String × Option String :=
  let (before, fragment) := cut (· = '#') cs
  let encode set text := String.ofList (Percent.encode set text)
  (match before with
    | '?' :: query => some (encode (if web then Percent.inWebQuery else Percent.inQuery) query)
    | _ => none,
    match fragment with
    | '#' :: fragment => some (encode Percent.inFragment fragment)
    | _ => none)

/-- How many dots a segment stands for, if it is made of dots, encoded or not. -/
def dots? : List Char → Option Nat
  | [] => some 0
  | '.' :: cs => (dots? cs).map (· + 1)
  | '%' :: '2' :: e :: cs => if e = 'e' || e = 'E' then (dots? cs).map (· + 1) else none
  | _ => none

/-- Adds a segment to those before it, which stand last first. One dot stays, and two go up. -/
def addSegment (segments : List (List Char)) (segment : List Char) (isLast : Bool) :
    List (List Char) :=
  match dots? segment with
  | some 1 => if isLast then [] :: segments else segments
  | some 2 => if isLast then [] :: segments.tail else segments.tail
  | _ => Percent.encode Percent.inPath segment :: segments

def addSegments (segments : List (List Char)) : List (List Char) → List (List Char)
  | [] => segments
  | [segment] => addSegment segments segment true
  | segment :: rest => addSegments (addSegment segments segment false) rest

/-- A path of segments; without any text there is none, except in addresses of the web. -/
def readPath (web : Bool) (cs : List Char) : String :=
  match cs with
  | [] => if web then "/" else ""
  | c :: rest =>
    let text := if isSlash web c then rest else cs
    let segments := addSegments [] (splitWhere (isSlash web) text)
    String.ofList (segments.reverse.flatMap ('/' :: ·))

/-- Name and password, and the text after them. A name or a password without a host is refused. -/
def readLogin? (cs : List Char) : Option ((String × Option String) × List Char) :=
  let encode cs := String.ofList (Percent.encode Percent.inUserInfo cs)
  match cut (· = '@') cs.reverse with
  | (_, []) => some (("", none), cs)
  | (host, _ :: login) =>
    if host.isEmpty && login ≠ [':'] then none
    else
      let (user, password) := cut (· = ':') login.reverse
      let password := match password with
        | _ :: c :: cs => some (encode (c :: cs))
        | _ => none
      some ((encode user, password), host.reverse)

/-- The number of a socket, which may be left out after its colon. -/
def readSocket? (scheme : String) (cs : List Char) : Option (Option Nat) :=
  if cs.all Char.isDigit then
    let socket := cs.foldl (fun n c => n * 10 + (c.toNat - 48)) 0
    if 65535 < socket then none
    else if cs.isEmpty || impliedSocket? scheme = some socket then some none
    else some (some socket)
  else none

/-- Host and socket, which follows the first colon that is not in brackets, and the text that a
backslash separates from its number. -/
def readHost? (scheme : String) (cs : List Char) :
    Option ((Host × Option Nat) × List Char) := do
  let (inBrackets, rest) := match cs with
    | '[' :: _ => cut (· = ']') cs
    | cs => ([], cs)
  let (host, socket) := cut (· = ':') rest
  let host := inBrackets ++ host
  let parsed ← if isWebScheme scheme then Host.read? host else Host.readPlain? host
  match socket with
  | [] => some ((parsed, none), [])
  | _ :: socket =>
    let (digits, rest) := cut (· = '\\') socket
    if host.isEmpty then none else some ((parsed, ← readSocket? scheme digits), rest)

/-- Everything after the slashes before the authority. -/
def afterSlashes? (scheme : String) (cs : List Char) : Option Url := do
  let web := isWebScheme scheme
  let (authority, rest) := cut (fun c => isSlash web c || c = '?' || c = '#') cs
  let ((user, password), cs) ← readLogin? authority
  let ((host, socket), left) ← readHost? scheme cs
  let (path, tail) := cut (fun c => c = '?' || c = '#') (left ++ rest)
  let (query, fragment) := readTail web tail
  some ⟨scheme, some ⟨user, password, host, socket⟩, readPath web path, query, fragment⟩

/-! ## Files -/

/-- A letter and a colon, or a bar in its place: a drive, which is never left by going up. -/
def isDrive : List Char → Bool
  | [c, mark] => c.isAlpha && (mark = ':' || mark = '|')
  | _ => false

/-- Adds a segment to those of a file's path, which stand last first. A drive that comes first is
written with a colon. -/
def addFileSegment (segments : List (List Char)) (segment : List Char) (isLast : Bool) :
    List (List Char) :=
  match dots? segment with
  | some 1 => if isLast then [] :: segments else segments
  | some 2 =>
    let kept := if segments.head?.any isDrive then segments else segments.tail
    if isLast then [] :: kept else kept
  | _ =>
    if segments.isEmpty && isDrive segment then [segment.take 1 ++ [':']]
    else Percent.encode Percent.inPath segment :: segments

def addFileSegments (segments : List (List Char)) : List (List Char) → List (List Char)
  | [] => segments
  | [segment] => addFileSegment segments segment true
  | segment :: rest => addFileSegments (addFileSegment segments segment false) rest

/-- The segments of a file's path, and the path, which begins with a single slash. -/
def readFilePath (cs : List Char) : List (List Char) × String :=
  let segments := (addFileSegments [] (splitWhere (isSlash true) cs)).reverse
  (segments, String.ofList ('/' :: (List.intercalate ['/'] segments).dropWhile (· = '/')))

/-- Host and path of a file. The host may be missing, `localhost` is none, and a drive is part of
the path. A path on a drive has no host. -/
def readFile? (cs : List Char) : Option (Host × String) :=
  let missing := Host.domain ""
  match cs with
  | a :: b :: cs =>
    if isSlash true a && isSlash true b then
      let (host, rest) := cut (isSlash true) cs
      if host.isEmpty || isDrive host then some (missing, (readFilePath cs).2)
      else do
        let host ← Host.read? host
        if host = .domain "localhost" then return (missing, (readFilePath rest).2)
        else
          let (segments, path) := readFilePath rest.tail
          return (if segments.head?.any isDrive then missing else host, path)
    else some (missing, (readFilePath (if isSlash true a then b :: cs else a :: b :: cs)).2)
  | cs => some (missing, (readFilePath (cs.dropWhile (isSlash true))).2)

def file? (cs : List Char) : Option Url := do
  let (text, tail) := cut (fun c => c = '?' || c = '#') cs
  let (host, path) ← readFile? text
  let (query, fragment) := readTail true tail
  some ⟨"file", some ⟨"", none, host, none⟩, path, query, fragment⟩

/-! ## Whole addresses -/

def read? (text : String) : Option Url := do
  let (scheme, rest) ← scheme? (clean text.toList)
  if scheme = "file" then file? rest
  else if isWebScheme scheme then afterSlashes? scheme (rest.dropWhile (isSlash true))
  else
    match rest with
    | '/' :: '/' :: rest => afterSlashes? scheme rest
    | rest =>
      let (path, tail) := cut (fun c => c = '?' || c = '#') rest
      let (query, fragment) := readTail false tail
      let path := match path with
        | '/' :: _ => readPath false path
        | path => String.ofList (Percent.encode Percent.isControl path)
      some ⟨scheme, none, path, query, fragment⟩

/-! ## Parts of an address -/

def hasHost (u : Url) : Bool :=
  u.authority.any fun a => a.host ≠ .domain ""

def hasLogin (u : Url) : Bool :=
  u.authority.any fun a => a.password.isSome || !a.user.isEmpty

def withoutLogin (u : Url) : Url :=
  { u with authority := u.authority.map fun a => { a with user := "", password := none } }

/-- Adds parameters to the query; neither names nor texts may need encoding. -/
def addQuery (u : Url) (parameters : List (String × String)) : Url :=
  if parameters.isEmpty then u
  else
    let text := "&".intercalate (parameters.map fun p => p.1 ++ "=" ++ p.2)
    { u with query := some <| match u.query with
        | some query => if query.isEmpty then text else query ++ "&" ++ text
        | none => text }

end Url

end KeyCustody.Http
