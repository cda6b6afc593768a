import Folio.Markdown
import Folio.Markdown.Scan

/-!
# Table rows

The cells of a row stand between vertical bars; the bars at its two ends may be
left out.  A bar behind a backslash belongs to its cell.
-/

namespace Folio
namespace Markdown

namespace TableRow

def isCellSpace (c : Char) : Bool :=
  c = ' ' || c = '\t' || c = '\x0b' || c = '\x0c'

def cellLength (escaped : Bool) : Text -> Nat
  | [] => 0
  | c :: s =>
      if c = '\n' || c = '\r' || (c = '|' && !escaped) then
        0
      else
        1 + cellLength (c = '\\') s

def unescapeBars : Text -> Text
  | '\\' :: '|' :: s => '|' :: unescapeBars s
  | c :: s => c :: unescapeBars s
  | [] => []

def bar? : Text -> Option Text
  | '|' :: s => some (s.dropWhile isCellSpace)
  | _ => none

def rowEnd? (s : Text) : Option Text :=
  Scan.char '\n' (s.dropWhile isCellSpace)

/-- Reads cells.  A line end that text follows begins a new row, and the cells
before it are given up.  The answer is the text from the start of the last row
on and the cells of that row. -/
def read (row : Text) (cells : List Text) : Nat -> Text -> Option (Text × List Text)
  | 0, _ => none
  | fuel + 1, s =>
      if s = [] then
        if cells = [] then none else some (row, cells.reverse)
      else
        let cell := s.take (cellLength false s)
        let behind := s.drop cell.length
        match bar? behind with
        | some rest => read row (Text.trimAscii (unescapeBars cell) :: cells) fuel rest
        | none =>
            let cells :=
              if cell = [] then cells else Text.trimAscii (unescapeBars cell) :: cells
            match rowEnd? behind with
            | some [] => if cells = [] then none else some (row, cells.reverse)
            | some next => read next [] fuel (Scan.optional bar? next)
            | none => if behind = [] ∧ cells ≠ [] then some (row, cells.reverse) else none

def cells? (s : Text) : Option (Text × List Text) :=
  (read s [] (s.length + 1) (Scan.optional bar? s)).map fun (row, cells) =>
    (Scan.taken s row, cells)

/-!
# Delimiter rows

The row below the header consists of dashes; colons at the ends of a cell align
its column.
-/

def delimiter? (s : Text) : Option Text := do
  let s := s.dropWhile isCellSpace
  let s := Scan.optional (Scan.char ':') s
  let s <- Scan.many1 (fun c => c = '-') s
  let s := Scan.optional (Scan.char ':') s
  some (s.dropWhile isCellSpace)

def isDelimiterTail : Nat -> Text -> Bool
  | 0, _ => false
  | fuel + 1, s =>
      match s with
      | '|' :: rest =>
          match delimiter? rest with
          | some rest => isDelimiterTail fuel rest
          | none => (rowEnd? rest).isSome
      | s => (rowEnd? s).isSome

def isDelimiterRow (s : Text) : Bool :=
  match delimiter? (Scan.optional (Scan.char '|') s) with
  | some rest => isDelimiterTail s.length rest
  | none => false

def alignment (cell : Text) : Alignment :=
  if cell.head? = some ':' then
    if cell.getLast? = some ':' then Alignment.center else Alignment.left
  else
    if cell.getLast? = some ':' then Alignment.right else Alignment.none

end TableRow

end Markdown
end Folio
