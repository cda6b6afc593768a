import Folio.Text

/-!
# Lines and columns

A line is read from its start towards its end.  Tabs reach to the next column
that is a multiple of four, and a tab may be taken in part: then its remaining
columns still count as spaces.  The text of a line ends with a line feed.
-/

namespace Folio
namespace Markdown

/-- A place in a line: the rest of the line, the column it starts at, and whether
its first character is a tab taken in part. -/
structure Line where
  rest : Text
  column : Nat
  partialTab : Bool

namespace Line

def start (s : Text) : Line where
  rest := s
  column := 0
  partialTab := false

def tabWidth (column : Nat) : Nat :=
  4 - column % 4

def blankWidth (column : Nat) : Text -> Nat
  | ' ' :: s => 1 + blankWidth (column + 1) s
  | '\t' :: s => tabWidth column + blankWidth (column + tabWidth column) s
  | _ => 0

def indent (line : Line) : Nat :=
  blankWidth line.column line.rest

def content (line : Line) : Text :=
  line.rest.dropWhile Text.isSpaceOrTab

def isBlank (line : Line) : Bool :=
  match line.content with
  | '\n' :: _ => true
  | _ => false

def advance : Nat -> Line -> Line
  | 0, line => line
  | count + 1, line =>
      match line.rest with
      | [] => line
      | c :: s =>
          let width := if c = '\t' then tabWidth line.column else c.utf8Size
          advance count { rest := s, column := line.column + width, partialTab := false }

/-- Takes columns, and a part of a tab if need be.  The first argument bounds the
number of characters taken. -/
def advanceColumnsWithin : Nat -> Nat -> Line -> Line
  | 0, _, line => line
  | _ + 1, 0, line => line
  | fuel + 1, count + 1, line =>
      match line.rest with
      | [] => line
      | c :: s =>
          if c = '\t' then
            let width := tabWidth line.column
            if count + 1 < width then
              { rest := c :: s, column := line.column + (count + 1), partialTab := true }
            else
              advanceColumnsWithin fuel (count + 1 - width)
                { rest := s, column := line.column + width, partialTab := false }
          else
            advanceColumnsWithin fuel count
              { rest := s, column := line.column + c.utf8Size, partialTab := false }

def advanceColumns (count : Nat) (line : Line) : Line :=
  advanceColumnsWithin (line.rest.length + 1) count line

def skipBlanks (line : Line) : Line :=
  advance (line.rest.takeWhile Text.isSpaceOrTab).length line

/-- Takes one blank, if there is one, and one column of it only if it is a tab. -/
def skipOneBlank (line : Line) : Line :=
  match line.rest with
  | c :: _ => if Text.isSpaceOrTab c then line.advanceColumns 1 else line
  | [] => line

def text (line : Line) : Text :=
  if line.partialTab then
    List.replicate (tabWidth line.column) ' ' ++ line.rest.drop 1
  else
    line.rest

def skipAll (line : Line) : Line :=
  advance (line.rest.length - 1) line

end Line

end Markdown
end Folio
