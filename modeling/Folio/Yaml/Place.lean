import Folio.Text

/-!
# Places in a YAML document

A place is the text from there on together with its mark: how many characters,
lines and characters of the line stand before it.
-/

namespace Folio
namespace Yaml

structure Mark where
  index : Nat
  line : Nat
  column : Nat
  deriving DecidableEq

namespace Mark

def origin : Mark where
  index := 0
  line := 0
  column := 0

def isOrigin (mark : Mark) : Bool :=
  mark.line = 0 && mark.column = 0

def words (mark : Mark) : Text :=
  if mark.isOrigin then
    []
  else
    " at line " ++ Text.ofNat (mark.line + 1) ++ " column " ++ Text.ofNat (mark.column + 1)

end Mark

/-!
# Problems

A problem ends the reading of a document.  It may happen in the course of reading
something that began earlier.
-/

structure Problem where
  what : Text
  mark : Mark
  during : Option (Text × Mark)

namespace Problem

def plain (what : Text) (mark : Mark) : Problem where
  what := what
  mark := mark
  during := none

def within (during : Text) (start : Mark) (what : Text) (mark : Mark) : Problem where
  what := what
  mark := mark
  during := some (during, start)

def sameSpot (a b : Mark) : Bool :=
  a.line = b.line && a.column = b.column

def message (problem : Problem) : Text :=
  problem.what ++ problem.mark.words ++
    match problem.during with
    | none => []
    | some (during, start) =>
        ", " ++ during ++ if sameSpot start problem.mark then [] else start.words

end Problem

/-!
# Classes of characters
-/

def isBlank (c : Char) : Bool :=
  c = ' ' || c = '\t'

def isBreak (c : Char) : Bool :=
  c = '\n' || c = '\r' || c = '\u0085' || c = '\u2028' || c = '\u2029'

def isNameChar (c : Char) : Bool :=
  Text.isAsciiAlphanum c || c = '_' || c = '-'

def isAllowed (c : Char) : Bool :=
  c = '\t' || c = '\n' || c = '\r' || (' ' ≤ c && c ≤ '~') || c = '\u0085' ||
    ('\u00a0' ≤ c && c ≤ '\ufffd') || 0x10000 ≤ c.toNat

/-!
# Moving on
-/

structure Place where
  rest : Text
  mark : Mark

namespace Place

def start (s : Text) : Place where
  rest := s
  mark := Mark.origin

def head? (place : Place) : Option Char :=
  place.rest.head?

def ahead? (place : Place) (n : Nat) : Option Char :=
  place.rest[n]?

def isAt (place : Place) (c : Char) : Bool :=
  place.head? = some c

def startsWith (place : Place) (lead : Text) : Bool :=
  Text.startsWith lead place.rest

def satisfies (p : Char -> Bool) : Option Char -> Bool
  | some c => p c
  | none => false

def isEnd (place : Place) : Bool :=
  place.rest.isEmpty

def isGap : Option Char -> Bool
  | some c => isBlank c || isBreak c
  | none => true

def isBreakOrEnd : Option Char -> Bool
  | some c => isBreak c
  | none => true

def skip (place : Place) (n : Nat) : Place where
  rest := place.rest.drop n
  mark := { place.mark with index := place.mark.index + n, column := place.mark.column + n }

def nextLine (place : Place) (n : Nat) : Place where
  rest := place.rest.drop n
  mark := { index := place.mark.index + n, line := place.mark.line + 1, column := 0 }

def readBreak (place : Place) : Text × Place :=
  match place.rest with
  | '\r' :: '\n' :: _ => (['\n'], place.nextLine 2)
  | c :: _ =>
      if c = '\u2028' || c = '\u2029' then
        ([c], place.nextLine 1)
      else if isBreak c then
        (['\n'], place.nextLine 1)
      else
        ([], place)
  | [] => ([], place)

def skipBreak (place : Place) : Place :=
  place.readBreak.2

def skipWhile (p : Char -> Bool) (place : Place) : Place :=
  place.skip (place.rest.takeWhile p).length

def skipBlanks (place : Place) : Place :=
  place.skipWhile isBlank

def skipComment (place : Place) : Place :=
  if place.isAt '#' then place.skipWhile fun c => !isBreak c else place

def isDocumentMark (place : Place) : Bool :=
  place.mark.column = 0 && (place.startsWith "---" || place.startsWith "...") &&
    isGap (place.ahead? 3)

end Place
end Yaml
end Folio
