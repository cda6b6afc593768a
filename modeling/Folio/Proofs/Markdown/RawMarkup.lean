import Folio.Markdown

/-!
# Raw markup

The blocks of a document are the blocks of its row and all blocks in them.  A
document without raw markup has no block of markup and no markup in its running
text.
-/

namespace Folio
namespace Markdown

/-!
# Running text
-/

namespace Inline

mutual

def isHtmlFree : Inline -> Bool
  | text _ => true
  | code _ => true
  | html _ => false
  | softBreak => true
  | hardBreak => true
  | emphasis content => allHtmlFree content
  | strong content => allHtmlFree content
  | link _ _ content => allHtmlFree content
  | image _ _ content => allHtmlFree content
  | noteCall _ _ _ => true

def allHtmlFree : List Inline -> Bool
  | [] => true
  | inline :: rest => isHtmlFree inline && allHtmlFree rest

end

end Inline

/-!
# Blocks
-/

namespace Block

mutual

def preorder : Block -> List Block
  | paragraph content => [paragraph content]
  | heading level content => [heading level content]
  | code info literal => [code info literal]
  | html literal => [html literal]
  | rule => [rule]
  | quote content => quote content :: preorderAll content
  | list style tight items => list style tight items :: preorderAll items
  | item content => item content :: preorderAll content
  | table columns rows => [table columns rows]
  | definitions content => definitions content :: preorderAll content
  | term content => [term content]
  | details tight content => details tight content :: preorderAll content
  | note name calls content => note name calls content :: preorderAll content

def preorderAll : List Block -> List Block
  | [] => []
  | block :: rest => preorder block ++ preorderAll rest

end

def isHtmlFree : Block -> Bool
  | html _ => false
  | paragraph content => Inline.allHtmlFree content
  | heading _ content => Inline.allHtmlFree content
  | term content => Inline.allHtmlFree content
  | table _ rows => rows.all fun row => row.all Inline.allHtmlFree
  | _ => true

theorem preorderAll_append (blocks others : List Block) :
    preorderAll (blocks ++ others) = preorderAll blocks ++ preorderAll others := by
  induction blocks with
  | nil =>
      rfl
  | cons block rest ih =>
      rw [List.cons_append, preorderAll, preorderAll, ih, List.append_assoc]

theorem mem_preorderAll_iff {block : Block} {blocks : List Block} :
    block ∈ preorderAll blocks ↔ exists outer, outer ∈ blocks ∧ block ∈ preorder outer := by
  induction blocks with
  | nil =>
      simp [preorderAll]
  | cons first rest ih =>
      simp [preorderAll, ih]

end Block

/-- A document in whose blocks there is no raw markup. -/
def HtmlFree (document : Document) : Prop :=
  forall block, block ∈ Block.preorderAll document -> block.isHtmlFree = true

instance (document : Document) : Decidable (HtmlFree document) :=
  inferInstanceAs (Decidable (forall block, block ∈ Block.preorderAll document -> _))

end Markdown
end Folio
