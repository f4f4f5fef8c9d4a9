import KeyCustody.Text.Base64
import KeyCustody.Text.Blank
import KeyCustody.Trust.Certificate

/-!
# Bundles of certificates

A bundle is a text in which certificates stand in base64 between a line that begins and one that
ends them. Other text and sections of other kinds are skipped. Every certificate must have the form
of one, but nothing is verified.
-/

namespace KeyCustody.Trust

open Text

/-- A section of the bundle: its kind, and what it holds. -/
structure Section where
  kind : String
  content : List UInt8

def certificateKind : String := "CERTIFICATE"

/-- The kinds of sections that are known; others may hold anything. -/
def knownKinds : List String :=
  [certificateKind, "PUBLIC KEY", "RSA PRIVATE KEY", "PRIVATE KEY", "EC PRIVATE KEY", "X509 CRL",
    "CERTIFICATE REQUEST", "ECHCONFIG"]

/-- The kind of section that a line begins: `none` for other lines, and no kind if the line does not
end in five dashes. Spaces between and after the dashes do not count. -/
def begun? (line : List Char) : Option (Option (List Char)) :=
  (after? "-----BEGIN ".toList line).map fun rest =>
    let ending := rest.reverse.takeWhile fun c => c = '-' || c = ' '
    if (ending.filter (· = '-')).length = 5 then
      let spaces := (ending.reverse.takeWhile (· = ' ')).length
      some (rest.take (rest.length - ending.length + spaces))
    else none

/-- What has been read: the kind of the section that is open, and the text that is not in a section
yet. A section that begins before the last one has ended takes its text over. -/
structure Reading where
  kind : Option (List Char)
  text : List Char

def Reading.none : Reading := ⟨.none, []⟩

/-- The sections of a text, line by line. -/
def sections? : List (List Char) → Reading → Option (List Section)
  | [], reading => if reading.kind.isSome then none else some []
  | line :: lines, reading =>
    match begun? line, reading.kind with
    | some none, _ => none
    | some (some kind), _ => sections? lines ⟨some kind, reading.text⟩
    | none, none => sections? lines reading
    | none, some kind =>
      if (after? ("-----END ".toList ++ kind ++ "-----".toList) line).isSome then
        let kind := String.ofList kind
        if knownKinds.contains kind then do
          let content ← Base64.decodeLoose? reading.text
          let more ← sections? lines .none
          some (⟨kind, content⟩ :: more)
        else sections? lines .none
      else sections? lines ⟨some kind, reading.text ++ line⟩

/-- Whether all certificates of a bundle can be trusted as far as their form goes. -/
def isBundle (text : String) : Bool :=
  match sections? (splitWhere (fun c => c = '\n' || c = '\r') text.toList) .none with
  | none => false
  | some sections => sections.all fun s => s.kind ≠ certificateKind || isCertificate s.content

end KeyCustody.Trust
