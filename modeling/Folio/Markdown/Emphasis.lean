import Folio.Text.Category
import Folio.Text.Space
import Folio.Markdown

/-!
# Emphasis

While running text is read, runs of `*` and `_` and opening brackets wait for
what closes them.  A run that may close looks back for the nearest run of the
same mark that may open; the pair encloses what stands between, and runs left
over in between become text.
-/

namespace Folio
namespace Markdown

/-- A run of emphasis marks: its length in the source, the marks not used up,
and whether it may open or close emphasis. -/
structure Run where
  mark : Char
  length : Nat
  remaining : Nat
  canOpen : Bool
  canClose : Bool

namespace Run

def between (mark : Char) (length : Nat) (before after : Char) : Run :=
  let leftFlanking :=
    !Text.isSpace after &&
      !(Text.isSign after && !Text.isSpace before && !Text.isSign before)
  let rightFlanking :=
    !Text.isSpace before &&
      !(Text.isSign before && !Text.isSpace after && !Text.isSign after)
  if mark = '_' then
    { mark := mark
      length := length
      remaining := length
      canOpen := leftFlanking && (!rightFlanking || Text.isSign before)
      canClose := rightFlanking && (!leftFlanking || Text.isSign after) }
  else
    { mark := mark
      length := length
      remaining := length
      canOpen := leftFlanking
      canClose := rightFlanking }

def toInline (run : Run) : Inline :=
  Inline.text (List.replicate run.remaining run.mark)

/-- Whether `opener` opens emphasis that `closer` closes.  When one of the two
could do both, lengths that add up to a multiple of three must each be one. -/
def opens (opener closer : Run) : Bool :=
  opener.canOpen && opener.mark == closer.mark &&
    !((closer.canOpen || opener.canClose) &&
      (opener.length + closer.length) % 3 == 0 &&
      !(opener.length % 3 == 0 && closer.length % 3 == 0))

def use (run : Run) (count : Nat) : Run :=
  { run with remaining := run.remaining - count }

end Run

inductive Piece where
  | node (inline : Inline)
  | run (run : Run)
  | opener (image followed : Bool) (inside : Text)

namespace Piece

def toInline : Piece -> Inline
  | node inline => inline
  | run r => r.toInline
  | opener image _ _ => Inline.text (if image then "![" else "[")

def ofRun (r : Run) : List Piece :=
  if r.remaining = 0 then [] else [run r]

/-- Pieces given latest first, split at the nearest run that opens for `closer`:
the pieces after it, the run, and the pieces before it. -/
def splitOpener (closer : Run) : List Piece -> Option (List Piece × Run × List Piece)
  | [] => none
  | run r :: rest =>
      if r.opens closer then
        some ([], r, rest)
      else
        (splitOpener closer rest).map fun (inner, found, outer) => (run r :: inner, found, outer)
  | piece :: rest =>
      (splitOpener closer rest).map fun (inner, found, outer) => (piece :: inner, found, outer)

def settle (pieces : List Piece) : List Inline :=
  Inline.merge (pieces.reverse.map toInline)

def enclose (count : Nat) (inner : List Piece) : Piece :=
  if count = 2 then
    node (Inline.strong (settle inner))
  else
    node (Inline.emphasis (settle inner))

/-- Pairs the runs of `rest`, with `seen` before them, latest first.  The first
argument bounds the number of steps. -/
def pair : Nat -> List Piece -> List Piece -> List Piece
  | 0, seen, rest => rest.reverse ++ seen
  | _ + 1, seen, [] => seen
  | fuel + 1, seen, run closer :: rest =>
      if closer.canClose then
        match splitOpener closer seen with
        | some (inner, found, outer) =>
            let count := if 2 ≤ found.remaining ∧ 2 ≤ closer.remaining then 2 else 1
            pair fuel (enclose count inner :: ofRun (found.use count) ++ outer)
              (ofRun (closer.use count) ++ rest)
        | none => pair fuel (run closer :: seen) rest
      else
        pair fuel (run closer :: seen) rest
  | fuel + 1, seen, piece :: rest => pair fuel (piece :: seen) rest

def weight : Piece -> Nat
  | run r => r.remaining + 1
  | _ => 1

def emphasize (pieces : List Piece) : List Inline :=
  let fuel := pieces.foldl (fun n piece => n + weight piece) 0
  settle (pair fuel [] pieces.reverse)

end Piece

end Markdown
end Folio
