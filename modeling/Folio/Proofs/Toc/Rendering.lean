import Folio.Proofs.Text.Tag
import Folio.Proofs.Toc.Outline
import Folio.Toc.Rendering

/-!
# Rendered tables

A table is put together from the tags of its lists and items and from its links.  What
holds of all of these and of any two texts in a row of which it holds is true of the
whole table.
-/

namespace Folio
namespace Toc

/-!
# Properties of tables
-/

def tableTags : List Text :=
  ["<ul>", "</ul>", "<li>", "</li>"]

/-- Whether a property of texts holds of the tags of tables and is kept when texts are put
in a row. -/
structure Composes (property : Text -> Prop) : Prop where
  nil : property []
  append : forall {s t : Text}, property s -> property t -> property (s ++ t)
  tag : forall tag, tag ∈ tableTags -> property tag

namespace Composes

variable {property : Text -> Prop}

theorem list (h : Composes property) {s : Text} (hs : property s) :
    property ("<ul>".toList ++ s ++ "</ul>".toList) :=
  h.append (h.append (h.tag _ (by decide)) hs) (h.tag _ (by decide))

theorem item (h : Composes property) {s : Text} (hs : property s) :
    property ("<li>".toList ++ s ++ "</li>".toList) :=
  h.append (h.append (h.tag _ (by decide)) hs) (h.tag _ (by decide))

mutual

theorem renderEntry (h : Composes property) :
    forall entry : Entry, (forall heading, heading ∈ entry.preorder -> property (link heading)) ->
      property (renderEntry entry)
  | Entry.node heading [], hlinks =>
      h.item (hlinks heading List.mem_cons_self)
  | Entry.node heading (child :: children), hlinks => by
      rw [Entry.preorder, List.forall_mem_cons] at hlinks
      have hbelow := h.renderItems (child :: children) hlinks.2
      exact h.item (h.append hlinks.1 (h.list hbelow))

theorem renderItems (h : Composes property) :
    forall entries : List Entry,
      (forall heading, heading ∈ preorderAll entries -> property (link heading)) ->
        property (renderItems entries)
  | [], _ => h.nil
  | entry :: entries, hlinks => by
      rw [preorderAll, List.forall_mem_append] at hlinks
      exact h.append (h.renderEntry entry hlinks.1) (h.renderItems entries hlinks.2)

end

theorem render (h : Composes property) {entries : List Entry}
    (hlinks : forall heading, heading ∈ preorderAll entries -> property (link heading)) :
    property (render entries) :=
  h.list (h.renderItems entries hlinks)

end Composes

/-!
# Tables without paragraph tags
-/

theorem composes_isQuiet : Composes fun s => Text.isQuiet s = true where
  nil := rfl
  append := Text.isQuiet_append
  tag := by decide

theorem isQuiet_link {heading : Heading} (hid : '<' ∉ heading.id) (hname : '<' ∉ heading.name) :
    Text.isQuiet (link heading) = true := by
  have hstart : Text.isQuiet "<a href=\"#".toList = true := by decide
  have hclose : Text.isQuiet "\">".toList = true := by decide
  have hend : Text.isQuiet "</a>".toList = true := by decide
  have htarget := Text.isQuiet_append hstart (Text.isQuiet_of_not_mem hid)
  have hopening := Text.isQuiet_append htarget hclose
  have hcontent := Text.isQuiet_append hopening (Text.isQuiet_of_not_mem hname)
  exact Text.isQuiet_append hcontent hend

theorem isQuiet_block {entries : List Entry}
    (h : forall heading, heading ∈ preorderAll entries -> '<' ∉ heading.id ∧ '<' ∉ heading.name) :
    Text.isQuiet (block entries) = true := by
  have htable : Text.isQuiet (render entries) = true := by
    apply composes_isQuiet.render
    intro heading hheading
    rcases h heading hheading with ⟨hid, hname⟩
    exact isQuiet_link hid hname
  have hstart : Text.isQuiet "<div class=\"toc\">".toList = true := by decide
  exact Text.isQuiet_append (Text.isQuiet_append hstart htable) rfl

end Toc
end Folio
