import KeyCustody.Text.Mark

/-!
# Direction of writing in domain names

Labels in scripts that are written from right to left must not mix with others in a way that lets
characters change places when they are shown.
-/

namespace KeyCustody.Http.Domain

open Text

/-- How a character takes part in the direction of a text. -/
inductive Direction where
  | leftToRight
  | rightToLeft
  | europeanNumber
  | arabicNumber
  /-- A mark, which goes with the character before it. -/
  | mark
  | neutral
  deriving DecidableEq, Repr

def rightToLeftLetters : CharSet := .ofGaps [
  "5be 48 2 1 2 1 1 1 d 45 d 71 7 4 5 2 a fc 4 109 f2af 11 2b0 18d 800 11f 1 219 7 1f0 10 2e 1",
  "f1 20 50 30 100 d800 6f0"]

def europeanNumbers : CharSet := .ofGaps [
  "30 a 6b6 a fbe7 1f"]

def arabicNumbers : CharSet := .ofGaps [
  "660 a 1 2 106c3 10 120 20"]

/-- Signs without a direction of their own. -/
def neutralSigns : CharSet := .ofGaps [
  "0 30 a 27 1a 64 18 1 1c1 2 7 e 2 1c 1 82 4 2 7f 2 192 34 48 2 1 2 1 1 1 d 4f 1 73 7 4 5 108",
  "4 1f8 2 7 1 f5 8 fa e 77 7 1c0 1 fa 4 452 10 60 1 29a 5 13b 1 14 20 130 6 98 22 60c 142 3c",
  "1ac 45 1a 1 316 1 153 100 330 b5 7 d 7 100 205 3 19 f 1 6 4 2 4 5f 1 5a 1 c4 30 1bd0 40 5690",
  "40 13d 3 63 e 7f 23 65 1 9f 8 8 8 34 c 2ea 56 5003 2b0 28e 1 3e 4d 3 40 74f 1 219 7 22e 1",
  "161 30 152 14 5fa 20 955 2a 4fe3 1 5c1d 350 299 d7 40 60 f9f 1d1 a20 260 1d 3 3d 39 7a da0"]

/-- Marks without room of their own that count as letters all the same. -/
def letterMarks : List Nat := [0xCBF, 0xCC6, 0x11A07, 0x11A08, 0x11C3F]

def Direction.of (c : Char) : Direction :=
  if isNonspacing c then if letterMarks.contains c.toNat then leftToRight else mark
  else if rightToLeftLetters.contains c then rightToLeft
  else if europeanNumbers.contains c then europeanNumber
  else if arabicNumbers.contains c then arabicNumber
  else if neutralSigns.contains c then neutral
  else leftToRight

def hasRightToLeft (cs : List Char) : Bool :=
  cs.any fun c => Direction.of c = .rightToLeft || Direction.of c = .arabicNumber

/-- The directions in a label, without those of the marks at its end. -/
def directions (label : List Char) : List Direction :=
  ((label.map Direction.of).reverse.dropWhile (· = .mark)).reverse

/-- Whether a label keeps its direction: it begins with a letter, holds nothing of the other
direction and not both kinds of numbers, and ends in a letter or a number. -/
def keepsDirection (label : List Char) : Bool :=
  match (label.head?).map Direction.of with
  | none => true
  | some .leftToRight =>
    (directions label).all (fun d => d ≠ .rightToLeft && d ≠ .arabicNumber) &&
      (directions label).getLast?.all fun d => d = .leftToRight || d = .europeanNumber
  | some .rightToLeft =>
    (directions label).all (· ≠ .leftToRight) &&
      !((directions label).contains .europeanNumber && (directions label).contains .arabicNumber) &&
      (directions label).getLast?.all fun d =>
        d = .rightToLeft || d = .europeanNumber || d = .arabicNumber
  | some _ => false

end KeyCustody.Http.Domain
