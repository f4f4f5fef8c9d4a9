import KeyCustody.Trust.Der

/-!
# Certificates

A certificate is a body, the algorithm it is signed with, and the signature. Only the third version
of the body has extensions; the first version is accepted as well. Parts that name or hold something
are only checked to be sequences.
-/

namespace KeyCustody.Trust

open Item

/-- An extension: what identifies it, whether it has to be understood, and what it holds. -/
structure Extension where
  identifier : List UInt8
  isCritical : Bool
  value : List UInt8

namespace Extension

/-- A truth value, which is false if it is left out. -/
def flag? (bytes : List UInt8) : Option (Bool × List UInt8) :=
  if bytes.head? = some boolean then
    match expect? boolean bytes with
    | some ([0xFF], rest) => some (true, rest)
    | some ([0x00], rest) => some (false, rest)
    | _ => none
  else some (false, bytes)

def read? (bytes : List UInt8) : Option Extension := do
  let (identifier, rest) ← expect? Item.identifier bytes
  let (isCritical, rest) ← flag? rest
  let value ← only? octetString rest
  return ⟨identifier, isCritical, value⟩

/-- The extension that says what the key may be used for. -/
def keyUsage : List UInt8 := [0x55, 0x1D, 15]

/-- The extensions that hold a sequence: other names, constraints and names that are allowed, where
revocations are listed, and what else the key may be used for. -/
def sequences : List (List UInt8) :=
  [17, 19, 30, 31, 37].map ([0x55, 0x1D, ·])

/-- Whether an extension is understood, and occurs at most once. -/
def isUnderstood (e : Extension) : Bool :=
  e.identifier = keyUsage || sequences.contains e.identifier

/-- Whether an extension is acceptable: one that is not understood must not be critical. -/
def isAcceptable (e : Extension) : Bool :=
  if sequences.contains e.identifier then (only? sequence e.value).isSome
  else e.isUnderstood || !e.isCritical

end Extension

/-- Whether the extensions of a certificate are acceptable, each and together. -/
def areExtensions (bytes : List UInt8) : Bool :=
  match row? sequence bytes >>= List.mapM Extension.read? with
  | none => false
  | some extensions =>
    let understood := (extensions.filter (·.isUnderstood)).map (·.identifier)
    extensions.all (·.isAcceptable) && understood.eraseDups.length = understood.length

/-- What a body says after its version: serial number, the algorithm, which is returned, issuer,
validity, subject and key. -/
def fields? (bytes : List UInt8) : Option (List UInt8 × List UInt8) := do
  let (_, rest) ← expect? integer bytes
  let (algorithm, rest) ← expect? sequence rest
  let (_, rest) ← expect? sequence rest
  let (_, rest) ← expect? sequence rest
  let (_, rest) ← expect? sequence rest
  let (_, rest) ← expect? sequence rest
  return (algorithm, rest)

/-- Whether bytes are a body of the first version, which does not say its version. -/
def isFirstBody (bytes : List UInt8) : Bool :=
  match fields? bytes with
  | some (_, []) => true
  | _ => false

/-- Whether bytes are a body of the third version. It has to repeat the algorithm that is used. -/
def isThirdBody (bytes algorithm : List UInt8) : Bool :=
  let parts := do
    let (content, rest) ← expect? version bytes
    let number ← only? integer content
    if number = [2] then fields? rest else none
  match parts with
  | none => false
  | some (inner, rest) =>
    decide (inner = algorithm) &&
      (rest.isEmpty || (only? extensions rest >>= only? sequence).any areExtensions)

def isCertificate (bytes : List UInt8) : Bool :=
  let parts := do
    let content ← only? sequence bytes
    let (body, rest) ← expect? sequence content
    let (algorithm, rest) ← expect? sequence rest
    let signature ← only? bitString rest
    if signature.head? = some 0 then some (body, algorithm) else none
  match parts with
  | some (body, algorithm) => isFirstBody body || isThirdBody body algorithm
  | none => false

end KeyCustody.Trust
