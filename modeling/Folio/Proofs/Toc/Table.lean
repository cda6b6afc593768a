import Folio.Proofs.Markdown.Anchor
import Folio.Proofs.Markdown.RawMarkup
import Folio.Proofs.Text.Decode
import Folio.Proofs.Toc.Reading

/-!
# Tables of converted documents

The table of a document is written with the anchors and names of its headings as they
are.  Anchors have no characters with a meaning in markup, and names are escaped, so that
no text of a heading breaks out of its link: the table is read back as the forest that it
was rendered from, and every name unescaped is the text of its heading.
-/

namespace Folio
namespace Toc

/-- Whether a heading of a table stands for a heading of the document with the given level
and text, and can be written into markup. -/
structure Heading.Shows (heading : Heading) (line : Nat × Text) : Prop where
  level : heading.level = line.1
  id : forall c, c ∈ ['"', '<', '>', '&'] -> c ∉ heading.id
  name : '<' ∉ heading.name ∧ '>' ∉ heading.name
  text : Text.unescapeName heading.name = Text.trim line.2

theorem Heading.Shows.isLinkable {heading : Heading} {line : Nat × Text} (h : heading.Shows line) :
    heading.IsLinkable where
  id := h.id '"' List.mem_cons_self
  name := h.name.1

theorem forall_isLinkable {headings : List Heading} {lines : List (Nat × Text)}
    (h : List.Forall₂ Heading.Shows headings lines) :
    forall heading, heading ∈ headings -> heading.IsLinkable :=
  ((List.forall₂_and_left _ _).mp (h.imp fun _ _ hline => ⟨hline.isLinkable, hline⟩)).1

end Toc

namespace Markdown

/-!
# The headings of a document
-/

def Block.headingLine? : Block -> Option (Nat × Text)
  | heading level content => some (level, Inline.plainAll content)
  | _ => none

/-- The levels and texts of all headings of a document, from top to bottom. -/
def headingLines (document : Document) : List (Nat × Text) :=
  (Block.preorderAll document).filterMap Block.headingLine?

theorem shows_heading (used : Anchors) (level : Nat) (s : Text) :
    Toc.Heading.Shows { level := level, id := used.assign s, name := headingName s } (level, s) where
  level := rfl
  id := by
    intro c hc
    have hplain : ['"', '<', '>', '&'].all (fun c => !isAnchorChar c && !c.isDigit) = true := by
      decide
    simp only [List.all_eq_true, Bool.and_eq_true, Bool.not_eq_true'] at hplain
    exact Anchors.not_mem_assign (hplain c hc).1 (hplain c hc).2 used s
  name := ⟨Text.bracket_not_mem_escapeName _, Text.closer_not_mem_escapeName _⟩
  text := Text.unescapeName_escapeName _

mutual

theorem blockHeadings_shows :
    forall (block : Block) (used : Anchors),
      List.Forall₂ Toc.Heading.Shows (blockHeadings used block).1
        (block.preorder.filterMap Block.headingLine?)
  | Block.heading level content, used =>
      List.Forall₂.cons (shows_heading used level (Inline.plainAll content)) List.Forall₂.nil
  | Block.quote content, used
  | Block.list _ _ content, used
  | Block.item content, used
  | Block.definitions content, used
  | Block.details _ content, used
  | Block.note _ _ content, used => blocksHeadings_shows content used
  | Block.paragraph _, _
  | Block.code _ _, _
  | Block.html _, _
  | Block.rule, _
  | Block.table _ _, _
  | Block.term _, _ => List.Forall₂.nil

theorem blocksHeadings_shows :
    forall (blocks : List Block) (used : Anchors),
      List.Forall₂ Toc.Heading.Shows (blocksHeadings used blocks).1 (headingLines blocks)
  | [], _ => List.Forall₂.nil
  | block :: rest, used => by
      rw [blocksHeadings, headingLines, Block.preorderAll, List.filterMap_append]
      exact List.rel_append (blockHeadings_shows block used)
        (blocksHeadings_shows rest (blockHeadings used block).2)

end

end Markdown

namespace Settings

/-- Every table that a document is converted with is well formed and faithful.  Its
headings are those of the document with a level in range, each with an anchor and a name
that markup does not read as its own, and the name unescaped is the trimmed text of the
heading.  So the table is read back as the forest of its anchors and names. -/
theorem toc_convert [Highlighter] (settings : Settings) (source : Text)
    (htoc : settings.has Extension.toc = true) :
    let conversion := settings.convert source
    let lines := Markdown.headingLines (Markdown.read settings.dialect source)
    List.Forall₂ Toc.Heading.Shows (Toc.preorderAll conversion.headings)
        (lines.filter fun (level, _) =>
          settings.toc.minLevel ≤ level && level ≤ settings.toc.maxLevel) ∧
      Toc.read? conversion.toc = some (Toc.items conversion.headings) := by
  intro conversion lines
  have hforest : conversion.headings =
      Toc.nest settings.toc (Markdown.headings (Markdown.read settings.dialect source)) := by
    simp only [conversion, convert, headings, htoc, if_true]
  have hshows : List.Forall₂ Toc.Heading.Shows (Toc.preorderAll conversion.headings)
      (lines.filter fun (level, _) =>
        settings.toc.minLevel ≤ level && level ≤ settings.toc.maxLevel) := by
    rw [hforest, Toc.nest_eq_outline, Toc.preorderAll_outline]
    apply List.rel_filter _ (Markdown.blocksHeadings_shows _ [])
    intro heading line hline
    simp only [Toc.Options.keeps, hline.level]
  exact ⟨hshows, Toc.read?_render (Toc.forall_isLinkable hshows)⟩

theorem toc_convert_of_markup_in_heading :
    let _ : Highlighter := Highlighter.wholeCode
    let source : Text := "# \"a\" `</a>`\n\n## &amp;lt; B\n"
    let outer : Toc.Heading := { level := 1, id := "a-a", name := "\"a\" &lt;/a&gt;" }
    let inner : Toc.Heading := { level := 2, id := "lt-b", name := "&amp;lt; B" }
    default.has Extension.toc = true ∧
      (default.convert source).headings = [Toc.Entry.node outer [Toc.Entry.node inner []]] ∧
      outer.Shows (1, "\"a\" </a>") ∧ inner.Shows (2, "&lt; B") ∧
      Toc.read? (default.convert source).toc =
        some [Toc.Item.branch outer.id outer.name [Toc.Item.leaf inner.id inner.name]] := by
  intro _ source outer inner
  have htoc : default.has Extension.toc = true := by decide
  have hcollected : Markdown.headings (Markdown.read default.dialect source) = [outer, inner] := by
    decide +kernel
  have hlines : ((Markdown.headingLines (Markdown.read default.dialect source)).filter
      fun (level, _) => default.toc.minLevel ≤ level && level ≤ default.toc.maxLevel) =
        [(1, "\"a\" </a>".toList), (2, "&lt; B".toList)] := by decide +kernel
  have hforest : (default.convert source).headings =
      [Toc.Entry.node outer [Toc.Entry.node inner []]] := by
    have hkept : [outer, inner].filter default.toc.keeps = [outer, inner] := rfl
    simp only [convert, headings, htoc, if_true, hcollected, Toc.nest_eq_outline, hkept]
    simp [Toc.outline, Toc.Heading.isAbove, outer, inner]
  have h := toc_convert default source htoc
  dsimp only at h
  rw [hlines, hforest] at h
  rcases h with ⟨_ | ⟨houter, _ | ⟨hinner, _⟩⟩, hread⟩
  exact ⟨htoc, hforest, houter, hinner, hread⟩

end Settings
end Folio
