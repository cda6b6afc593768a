import Folio.Yaml.Scalar

/-!
# Block scalars

A block scalar is the lines that are indented more than what it belongs to.  A
literal one keeps its line breaks; a folded one joins lines that are not indented
further.  A sign after the mark says what becomes of the breaks at the end.
-/

namespace Folio
namespace Yaml

/-- What becomes of the line breaks at the end: one stays, none, or all. -/
inductive Chomping where
  | clip
  | strip
  | keep
  deriving DecidableEq

def whileBlock : Text :=
  "while scanning a block scalar"

def chomping? : Option Char -> Option Chomping
  | some '+' => some Chomping.keep
  | some '-' => some Chomping.strip
  | _ => none

/-!
# The header
-/

def readDepth (start : Mark) (place : Place) : Except Problem (Option Nat × Place) :=
  match place.head? with
  | some '0' =>
      Except.error
        (Problem.within whileBlock start "found an indentation indicator equal to 0" place.mark)
  | some c =>
      if c.isDigit then
        Except.ok (some (Text.digitValue c), place.skip 1)
      else
        Except.ok (none, place)
  | none => Except.ok (none, place)

def readHeader (start : Mark) (place : Place) :
    Except Problem (Chomping × Option Nat × Place) :=
  match chomping? place.head? with
  | some chomping =>
      (readDepth start (place.skip 1)).map fun (depth, place) => (chomping, depth, place)
  | none =>
      match readDepth start place with
      | Except.error problem => Except.error problem
      | Except.ok (none, place) => Except.ok (Chomping.clip, none, place)
      | Except.ok (some depth, place) =>
          match chomping? place.head? with
          | some chomping => Except.ok (chomping, some depth, place.skip 1)
          | none => Except.ok (Chomping.clip, some depth, place)

def endHeader (start : Mark) (place : Place) : Except Problem Place :=
  let place := place.skipBlanks.skipComment
  if Place.isBreakOrEnd place.head? then
    Except.ok place.skipBreak
  else
    Except.error
      (Problem.within whileBlock start "did not find expected comment or line break" place.mark)

/-!
# Lines
-/

/-- The indentation and the empty lines before a line with text.  With depth zero
the depth is not known yet, and the widest indentation seen is kept. -/
structure Lead where
  breaks : Text
  widest : Nat
  stop : Mark
  place : Place

def readLead (depth : Nat) (start : Mark) : Nat -> Lead -> Except Problem Lead
  | 0, lead => Except.ok lead
  | fuel + 1, lead =>
      let column := lead.place.mark.column
      let spaces := (lead.place.rest.takeWhile fun c => c = ' ').length
      let place := lead.place.skip (if depth = 0 then spaces else min spaces (depth - column))
      let column := place.mark.column
      let lead := { lead with widest := max lead.widest column, place := place }
      if (depth = 0 || column < depth) && place.isAt '\t' then
        Except.error
          (Problem.within whileBlock start
            "found a tab character where an indentation space is expected" place.mark)
      else if Place.satisfies isBreak place.head? then
        let (s, place) := place.readBreak
        readLead depth start fuel
          { lead with breaks := lead.breaks ++ s, stop := place.mark, place := place }
      else
        Except.ok lead

/-- What has been read of a block scalar: its text with the last character first, the
break after the last line, the empty lines after that, and whether the last line
began with a blank. -/
structure BlockLines where
  taken : Text
  lastBreak : Text
  breaks : Text
  afterBlank : Bool
  stop : Mark
  place : Place

def readLines (literal : Bool) (depth : Nat) (start : Mark) :
    Nat -> BlockLines -> Except Problem BlockLines
  | 0, lines => Except.ok lines
  | fuel + 1, lines =>
      let place := lines.place
      if place.mark.column = depth && !place.isEnd then
        let blank := Place.satisfies isBlank place.head?
        let joint :=
          if !literal && lines.lastBreak = ['\n'] && !lines.afterBlank && !blank then
            if lines.breaks = [] then [' '] else []
          else
            lines.lastBreak
        let content := place.rest.takeWhile fun c => !isBreak c
        let taken := content.reverse ++ (joint ++ lines.breaks).reverse ++ lines.taken
        let (lastBreak, place) := (place.skip content.length).readBreak
        match readLead depth start (fuel + 1)
            { breaks := [], widest := 0, stop := place.mark, place := place } with
        | Except.error problem => Except.error problem
        | Except.ok lead =>
            readLines literal depth start fuel
              { taken := taken
                lastBreak := lastBreak
                breaks := lead.breaks
                afterBlank := blank
                stop := lead.stop
                place := lead.place }
      else
        Except.ok lines

def BlockLines.chomp (lines : BlockLines) (chomping : Chomping) : Text :=
  lines.taken.reverse ++
    match chomping with
    | Chomping.strip => []
    | Chomping.clip => lines.lastBreak
    | Chomping.keep => lines.lastBreak ++ lines.breaks

def readBlock (literal : Bool) (indent : Nat) (place : Place) :
    Except Problem (Text × Mark × Place) :=
  let start := place.mark
  match readHeader start (place.skip 1) with
  | Except.error problem => Except.error problem
  | Except.ok (chomping, stated, place) =>
      match endHeader start place with
      | Except.error problem => Except.error problem
      | Except.ok place =>
          let fuel := place.rest.length + 1
          let depth :=
            match stated with
            | some n => indent - 1 + n
            | none => 0
          match readLead depth start fuel
              { breaks := [], widest := 0, stop := place.mark, place := place } with
          | Except.error problem => Except.error problem
          | Except.ok lead =>
              let depth := if depth = 0 then max (max lead.widest indent) 1 else depth
              let lines : BlockLines :=
                { taken := []
                  lastBreak := []
                  breaks := lead.breaks
                  afterBlank := false
                  stop := lead.stop
                  place := lead.place }
              (readLines literal depth start fuel lines).map fun lines =>
                (lines.chomp chomping, lines.stop, lines.place)

end Yaml
end Folio
