import Folio.Toc

/-!
# Nesting headings

A heading belongs under the closest heading before it that has a smaller level.
The headings are read in document order.  At each moment the closed top-level
entries stand in a row, and the headings that may still receive children form a
branch, the innermost first.
-/

namespace Folio
namespace Toc

/-- A heading that is still open, with the entries closed under it so far. -/
structure OpenEntry where
  heading : Heading
  children : List Entry

namespace OpenEntry

def ofHeading (heading : Heading) : OpenEntry where
  heading := heading
  children := []

def close (entry : OpenEntry) : Entry :=
  Entry.node entry.heading entry.children

def adopt (parent child : OpenEntry) : OpenEntry :=
  { parent with children := parent.children ++ [child.close] }

end OpenEntry

structure Nesting where
  roots : List Entry
  branch : List OpenEntry

namespace Nesting

def empty : Nesting where
  roots := []
  branch := []

/-- Closes open headings, each into its parent or into the roots, until the
innermost one has a level below `level`. -/
def closeDownTo (level : Nat) (roots : List Entry) : List OpenEntry -> Nesting
  | [] => { roots := roots, branch := [] }
  | [last] =>
      if last.heading.level < level then
        { roots := roots, branch := [last] }
      else
        { roots := roots ++ [last.close], branch := [] }
  | last :: parent :: rest =>
      if last.heading.level < level then
        { roots := roots, branch := last :: parent :: rest }
      else
        closeDownTo level roots (parent.adopt last :: rest)
termination_by branch => branch.length

def push (options : Options) (nesting : Nesting) (heading : Heading) : Nesting :=
  if options.keeps heading then
    let closed := closeDownTo heading.level nesting.roots nesting.branch
    { closed with branch := OpenEntry.ofHeading heading :: closed.branch }
  else
    nesting

def finish (roots : List Entry) : List OpenEntry -> List Entry
  | [] => roots
  | [last] => roots ++ [last.close]
  | last :: parent :: rest => finish roots (parent.adopt last :: rest)
termination_by branch => branch.length

end Nesting

/-- The forest of the headings that the options keep. -/
def nest (options : Options) (headings : List Heading) : List Entry :=
  let nesting := headings.foldl (Nesting.push options) Nesting.empty
  Nesting.finish nesting.roots nesting.branch

end Toc
end Folio
