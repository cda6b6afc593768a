import Folio.Text.Case
import Folio.Text.Escape
import Folio.Text.Space
import Folio.Markdown
import Folio.Toc

/-!
# Anchors

Every heading gets an anchor made from its plain text.  An anchor that is taken
already is followed by a number, the first one that makes it free.  The headings
of a document are collected in the order of its blocks.
-/

namespace Folio
namespace Markdown

/-!
# Free anchors
-/

def isAnchorChar (c : Char) : Bool :=
  Text.isWordChar c || c = '-' || c = ' '

/-- The anchor that a text asks for: lower-cased, without characters that anchors
do not keep, and with dashes for spaces. -/
def slug (s : Text) : Text :=
  ((Text.lower s).filter isAnchorChar).map fun c => if c = ' ' then '-' else c

abbrev Anchors := List Text

namespace Anchors

def candidate (base : Text) : Nat -> Text
  | 0 => base
  | n + 1 => base ++ '-' :: Text.ofNat (n + 1)

/-- The first free candidate from number `n` on.  Of more candidates than there
are anchors one is free, so `fuel` never runs out when it is their count. -/
def firstFree (used : Anchors) (base : Text) (n : Nat) : Nat -> Text
  | 0 => candidate base n
  | fuel + 1 =>
      if used.contains (candidate base n) then
        firstFree used base (n + 1) fuel
      else
        candidate base n

def assign (used : Anchors) (s : Text) : Text :=
  firstFree used (slug s) 0 used.length

end Anchors

/-!
# Headings of a document
-/

def headingName (s : Text) : Text :=
  Text.escapeName (Text.trim s)

mutual

def blockHeadings (used : Anchors) : Block -> List Toc.Heading × Anchors
  | Block.heading level content =>
      let s := Inline.plainAll content
      let id := used.assign s
      ([{ level := level, id := id, name := headingName s }], id :: used)
  | Block.quote content => blocksHeadings used content
  | Block.list _ _ items => blocksHeadings used items
  | Block.item content => blocksHeadings used content
  | Block.definitions content => blocksHeadings used content
  | Block.details _ content => blocksHeadings used content
  | Block.note _ _ content => blocksHeadings used content
  | _ => ([], used)

def blocksHeadings (used : Anchors) : List Block -> List Toc.Heading × Anchors
  | [] => ([], used)
  | block :: rest =>
      let (first, used) := blockHeadings used block
      let (others, used) := blocksHeadings used rest
      (first ++ others, used)

end

def headings (document : Document) : List Toc.Heading :=
  (blocksHeadings [] document).1

end Markdown
end Folio
