import KeyCustody.Text.Mark

/-!
# Joiners in domain names

In scripts whose letters join, two characters without a form of their own say whether the letters
around them do. They may stand only where that makes a difference.
-/

namespace KeyCustody.Http.Domain

open Text

def joiningBoth : CharSet := .ofGaps [
  "620 1 5 1 1 1 1 5 4 d 1 7 1 2 23 2 9 f 12 26 1 2 9 1 1 1 1 2 28 3 2 1 12 3 5 4 1 9 1 1 1 1 1",
  "2 1f b 3 f 2 4 1 1 2 3 2 6 4a 21 56 5 2 1 1 a 1 1 a 1 1 4 2 1 1d 1 2 5 1 8 9 a 5 2 2 6 1 f",
  "f3e 1 18 60 7 22 1 6 8f90 32 624e 5 e 4 1 5 1 3 a 4 91 1 1 1 3 3 1 2 1 1 2 1 1c 2 152 21 1 1",
  "19f 2 1 a 60 3 1 11 c 3 1c 4 2 c 2e 1 1 2 4 1 2 2 1 2 1 1 2 1 5 1 d957 22"]

def joiningBefore : CharSet := .ofGaps [
  "622 4 1 1 1 1 5 4 15 1 28 3 14 12 26 1 2 9 1 1 1 1 2 2 1 1 18 2 20 1 4 5 4 1 9 1 1 1 1 1 2 1",
  "1d 1 b 3 f 2 4 1 1 2 3 2 c6 1 5 2 1 1 a 1 1 3 e 1 1 1a b 1 1b 3 1 1 2 2 6 1 1020b 1 1 1 1 2",
  "3 5 a 1 3 1 2 1 a 1 91 1 1 3 3 1 2 1 1 2 1 8 10 4 175 1 19f 1 70 1 20 1 1f 2 3e 3 2 2 2 1 4",
  "2 5 1"]

def joiningAfter : CharSet := .ofGaps [
  "a872 1 625a 1 9 1 228 1 2ca 15"]

/-- A mark that is written like a letter. -/
def letterlikeMark : Nat := 0x1E94B

def isTransparent (c : Char) : Bool := isNonspacing c || c.toNat = letterlikeMark

/-- Whether the first character that letters do not join over is one of these. -/
def meets (joins : Char → Bool) (cs : List Char) : Bool :=
  (cs.find? fun c => joins c || !isTransparent c).any joins

def nonJoiner : Nat := 0x200C
def joiner : Nat := 0x200D

/-- Whether every joiner follows a mark that joins letters, or keeps letters apart that would
otherwise join; `before` is what stands before, last character first. -/
def joinersFit (before : List Char) : List Char → Bool
  | [] => true
  | c :: cs =>
    let fits :=
      if c.toNat = joiner ∨ c.toNat = nonJoiner then
        before.head?.any (markClass · = joinerClass) ||
          (c.toNat = nonJoiner &&
            meets (fun d => joiningBoth.contains d || joiningAfter.contains d) before &&
            meets (fun d => joiningBoth.contains d || joiningBefore.contains d) cs)
      else true
    fits && joinersFit (c :: before) cs

end KeyCustody.Http.Domain
