import Folio.Text

/-!
# Tables of contents

A document has headings in a row; its table of contents is a forest in which a
heading holds the headings of its section.  The options say which levels are
taken in and which paragraph of the page is replaced by the table.
-/

namespace Folio
namespace Toc

structure Heading where
  level : Nat
  id : Text
  name : Text
  deriving DecidableEq

inductive Entry where
  | node (heading : Heading) (children : List Entry)

namespace Entry

def heading : Entry -> Heading
  | node h _ => h

def children : Entry -> List Entry
  | node _ entries => entries

end Entry

structure Options where
  minLevel : Nat
  maxLevel : Nat
  marker : Text
  deriving DecidableEq

namespace Options

def default : Options where
  minLevel := 1
  maxLevel := 6
  marker := "[TOC]"

def keeps (options : Options) (heading : Heading) : Bool :=
  options.minLevel ≤ heading.level && heading.level ≤ options.maxLevel

end Options

end Toc
end Folio
