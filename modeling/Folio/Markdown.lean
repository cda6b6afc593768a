import Folio.Text

/-!
# Markdown documents

A document is a row of blocks.  Some blocks hold further blocks, and the
innermost ones hold a row of inline elements.  Items stand only in lists, and
terms and details only in definition lists.
-/

namespace Folio
namespace Markdown

inductive Inline where
  | text (content : Text)
  | code (content : Text)
  | html (markup : Text)
  | softBreak
  | hardBreak
  | emphasis (content : List Inline)
  | strong (content : List Inline)
  | link (target title : Text) (content : List Inline)
  | image (target title : Text) (content : List Inline)
  | noteCall (name : Text) (number occurrence : Nat)

inductive Alignment where
  | none
  | left
  | center
  | right
  deriving DecidableEq

inductive ListStyle where
  | bullet
  | numbered (start : Nat)
  deriving DecidableEq

inductive Block where
  | paragraph (content : List Inline)
  | heading (level : Nat) (content : List Inline)
  | code (info literal : Text)
  | html (literal : Text)
  | rule
  | quote (content : List Block)
  | list (style : ListStyle) (tight : Bool) (items : List Block)
  | item (content : List Block)
  | table (columns : List Alignment) (rows : List (List (List Inline)))
  | definitions (content : List Block)
  | term (content : List Inline)
  | details (tight : Bool) (content : List Block)
  | note (name : Text) (calls : Nat) (content : List Block)

abbrev Document := List Block

/-!
# Plain text

The plain text of inline elements is what a heading is named by: text and code
as they are, every break as a space, and nothing for raw markup and note calls.
-/

namespace Inline

mutual

def plain : Inline -> Text
  | text content => content
  | code content => content
  | html _ => []
  | softBreak => [' ']
  | hardBreak => [' ']
  | emphasis content => plainAll content
  | strong content => plainAll content
  | link _ _ content => plainAll content
  | image _ _ content => plainAll content
  | noteCall _ _ _ => []

def plainAll : List Inline -> Text
  | [] => []
  | inline :: rest => plain inline ++ plainAll rest

end

def merge : List Inline -> List Inline
  | [] => []
  | text content :: rest =>
      match merge rest with
      | text more :: others => text (content ++ more) :: others
      | others => text content :: others
  | inline :: rest => inline :: merge rest

end Inline

end Markdown
end Folio
