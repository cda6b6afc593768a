import Folio.Yaml.Place

/-!
# Scalars

A scalar is written in quotes, as a block of lines, or plainly.  Line breaks
inside quoted and plain scalars are folded: one break becomes a space, and of
more breaks all but the first stay.
-/

namespace Folio
namespace Yaml

inductive Style where
  | plain
  | quoted
  | literal
  | folded
  deriving DecidableEq

abbrev Scanned := Except Problem (Text × Place)

/-!
# Folding
-/

structure Gap where
  blanks : Text
  broken : Bool
  first : Text
  others : Text

namespace Gap

def none : Gap where
  blanks := []
  broken := false
  first := []
  others := []

def fold (gap : Gap) : Text :=
  if gap.broken then
    if gap.first = ['\n'] then
      if gap.others = [] then [' '] else gap.others
    else
      gap.first ++ gap.others
  else
    gap.blanks

def addBreak (gap : Gap) (s : Text) : Gap :=
  if gap.broken then
    { gap with others := gap.others ++ s }
  else
    { gap with blanks := [], broken := true, first := s }

end Gap

/-- Reads a gap.  `tabsFrom`, if given, is the column from which on a line may have
tabs. -/
def readGap (tabsFrom : Option Nat) : Nat -> Gap -> Place -> Except Mark (Gap × Place)
  | 0, gap, place => Except.ok (gap, place)
  | fuel + 1, gap, place =>
      match place.head? with
      | some c =>
          if isBlank c then
            let early : Bool :=
              match tabsFrom with
              | some column => gap.broken && place.mark.column < column
              | none => false
            if early && c = '\t' then
              Except.error place.mark
            else if gap.broken then
              readGap tabsFrom fuel gap (place.skip 1)
            else
              readGap tabsFrom fuel { gap with blanks := gap.blanks ++ [c] } (place.skip 1)
          else if isBreak c then
            let (s, place) := place.readBreak
            readGap tabsFrom fuel (gap.addBreak s) place
          else
            Except.ok (gap, place)
      | none => Except.ok (gap, place)

/-!
# Quoted scalars
-/

def whileQuoted : Text :=
  "while scanning a quoted scalar"

def whileEscape : Text :=
  "while parsing a quoted scalar"

def escapeChar? : Char -> Option Char
  | '0' => some '\x00'
  | 'a' => some '\x07'
  | 'b' => some '\x08'
  | 't' => some '\t'
  | '\t' => some '\t'
  | 'n' => some '\n'
  | 'v' => some '\x0b'
  | 'f' => some '\x0c'
  | 'r' => some '\r'
  | 'e' => some '\x1b'
  | ' ' => some ' '
  | '"' => some '"'
  | '/' => some '/'
  | '\\' => some '\\'
  | 'N' => some '\u0085'
  | '_' => some '\u00a0'
  | 'L' => some '\u2028'
  | 'P' => some '\u2029'
  | _ => none

def escapeDigits? : Char -> Option Nat
  | 'x' => some 2
  | 'u' => some 4
  | 'U' => some 8
  | _ => none

def readEscape (start : Mark) (place : Place) : Except Problem (Char × Place) :=
  let refuse (what : Text) (place : Place) : Except Problem (Char × Place) :=
    Except.error (Problem.within whileEscape start what place.mark)
  match place.ahead? 1 with
  | none => refuse "found unknown escape character" place
  | some letter =>
      match escapeChar? letter, escapeDigits? letter with
      | some c, _ => Except.ok (c, place.skip 2)
      | none, none => refuse "found unknown escape character" place
      | none, some n =>
          let place := place.skip 2
          let digits := (place.rest.take n).takeWhile Text.isHexDigit
          let code := Text.hexToNat digits
          if digits.length < n then
            refuse "did not find expected hexdecimal number" place
          else if (0xD800 ≤ code ∧ code ≤ 0xDFFF) ∨ 0x10FFFF < code then
            refuse "found invalid Unicode character escape code" place
          else
            Except.ok (Char.ofNat code, place.skip n)

/-- The characters of a quoted scalar up to a gap or to the closing quote, the last
one first, and whether a backslash joined the line to the next one. -/
def readWord (quote : Char) (start : Mark) :
    Nat -> Text -> Place -> Except Problem (Text × Bool × Place)
  | 0, taken, place => Except.ok (taken, false, place)
  | fuel + 1, taken, place =>
      match place.head? with
      | none => Except.ok (taken, false, place)
      | some c =>
          if isBlank c || isBreak c then
            Except.ok (taken, false, place)
          else if quote = '\'' && place.startsWith "''" then
            readWord quote start fuel ('\'' :: taken) (place.skip 2)
          else if c = quote then
            Except.ok (taken, false, place)
          else if quote = '"' && c = '\\' then
            if Place.satisfies isBreak (place.ahead? 1) then
              Except.ok (taken, true, (place.skip 1).skipBreak)
            else
              match readEscape start place with
              | Except.error problem => Except.error problem
              | Except.ok (c, place) => readWord quote start fuel (c :: taken) place
          else
            readWord quote start fuel (c :: taken) (place.skip 1)

def readQuotedFrom (quote : Char) (start : Mark) : Nat -> Text -> Place -> Scanned
  | 0, taken, place => Except.ok (taken, place)
  | fuel + 1, taken, place =>
      if place.isDocumentMark then
        Except.error
          (Problem.within whileQuoted start "found unexpected document indicator" place.mark)
      else if place.isEnd then
        Except.error
          (Problem.within whileQuoted start "found unexpected end of stream" place.mark)
      else
        match readWord quote start (fuel + 1) taken place with
        | Except.error problem => Except.error problem
        | Except.ok (taken, joined, place) =>
            if place.isAt quote then
              Except.ok (taken, place.skip 1)
            else
              let gap := { Gap.none with broken := joined }
              match readGap none (fuel + 1) gap place with
              | Except.error mark =>
                  Except.error (Problem.within whileQuoted start [] mark)
              | Except.ok (gap, place) =>
                  readQuotedFrom quote start fuel (gap.fold.reverse ++ taken) place

def readQuoted (quote : Char) (place : Place) : Scanned :=
  (readQuotedFrom quote place.mark (place.rest.length + 1) [] (place.skip 1)).map
    fun (taken, place) => (taken.reverse, place)

/-!
# Plain scalars
-/

def whilePlain : Text :=
  "while scanning a plain scalar"

def isFlowMark (c : Char) : Bool :=
  c = ',' || c = '[' || c = ']' || c = '\x7b' || c = '\x7d'

structure PlainContext where
  inFlow : Bool
  indent : Nat
  start : Mark

def endsPlain (inFlow : Bool) (place : Place) : Bool :=
  (place.isAt ':' && Place.isGap (place.ahead? 1)) ||
    (inFlow && Place.satisfies isFlowMark place.head?)

def isStrayColon (inFlow : Bool) (place : Place) : Bool :=
  inFlow && place.isAt ':' &&
    Place.satisfies (fun c => isFlowMark c || c = '?') (place.ahead? 1)

def readPlainWord (context : PlainContext) : Nat -> Text -> Place -> Scanned
  | 0, taken, place => Except.ok (taken, place)
  | fuel + 1, taken, place =>
      match place.head? with
      | none => Except.ok (taken, place)
      | some c =>
          if isBlank c || isBreak c then
            Except.ok (taken, place)
          else if isStrayColon context.inFlow place then
            Except.error (Problem.within whilePlain context.start "found unexpected ':'" place.mark)
          else if endsPlain context.inFlow place then
            Except.ok (taken, place)
          else
            readPlainWord context fuel (c :: taken) (place.skip 1)

structure PlainScalar where
  content : Text
  stop : Mark
  place : Place
  afterBreak : Bool

/-- Reads a plain scalar.  `gap` is what stands between the text so far, which has its
last character first, and the place. -/
def readPlainFrom (context : PlainContext) :
    Nat -> Text -> Gap -> Mark -> Place -> Except Problem PlainScalar
  | 0, taken, gap, stop, place =>
      Except.ok { content := taken.reverse, stop := stop, place := place, afterBreak := gap.broken }
  | fuel + 1, taken, gap, stop, place =>
      let done : PlainScalar :=
        { content := taken.reverse, stop := stop, place := place, afterBreak := gap.broken }
      if place.isDocumentMark || place.isAt '#' then
        Except.ok done
      else
        match readPlainWord context (fuel + 1) [] place with
        | Except.error problem => Except.error problem
        | Except.ok ([], _) => Except.ok done
        | Except.ok (word, after) =>
            let taken := word ++ gap.fold.reverse ++ taken
            match readGap (some context.indent) (fuel + 1) Gap.none after with
            | Except.error mark =>
                Except.error
                  (Problem.within whilePlain context.start
                    "found a tab character that violates indentation" mark)
            | Except.ok (gap, next) =>
                let done : PlainScalar :=
                  { content := taken.reverse
                    stop := after.mark
                    place := next
                    afterBreak := gap.broken }
                if next.mark = after.mark then
                  Except.ok done
                else if !context.inFlow && next.mark.column < context.indent then
                  Except.ok done
                else
                  readPlainFrom context fuel taken gap after.mark next

def readPlain (inFlow : Bool) (indent : Nat) (place : Place) : Except Problem PlainScalar :=
  readPlainFrom { inFlow := inFlow, indent := indent, start := place.mark }
    (place.rest.length + 1) [] Gap.none place.mark place

end Yaml
end Folio
