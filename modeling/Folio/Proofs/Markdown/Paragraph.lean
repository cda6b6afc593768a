import Mathlib.Data.List.Forall2
import Folio.Proofs.Markdown.Part

/-!
# Paragraphs of a page

A paragraph is printed with tags of its own unless it stands in a tight list or
in tight details.  The paragraphs with tags are printed in the order of the
document, each with its content alone.  Only the one that ends a note has something
behind its content: a space and the links back to the calls of the note.
-/

namespace Folio
namespace Markdown

/-!
# Paragraphs of a document
-/

/-- A paragraph that is printed with tags of its own. -/
structure Paragraph where
  content : List Inline
  endsNote : Bool

mutual

/-- The paragraphs of a block that are printed with tags of their own.  `tight`
says whether the block stands in a tight list, and `endsNote` whether it is the
last one of a note. -/
def blockParagraphs (tight endsNote : Bool) : Block -> List Paragraph
  | Block.paragraph content =>
      if tight then [] else [{ content := content, endsNote := endsNote }]
  | Block.heading _ _ => []
  | Block.code _ _ => []
  | Block.html _ => []
  | Block.rule => []
  | Block.quote content => blocksParagraphs false false content
  | Block.list _ isTight items => blocksParagraphs isTight false items
  | Block.item content => blocksParagraphs tight false content
  | Block.table _ _ => []
  | Block.definitions content => blocksParagraphs false false content
  | Block.term _ => []
  | Block.details isTight content => blocksParagraphs isTight false content
  | Block.note _ _ content => blocksParagraphs false true content

def blocksParagraphs (tight endsNote : Bool) : List Block -> List Paragraph
  | [] => []
  | block :: rest =>
      blockParagraphs tight (rest.isEmpty && endsNote) block ++
        blocksParagraphs tight endsNote rest

end

def paragraphs (document : Document) : List Paragraph :=
  blocksParagraphs false false document

/-!
# Printed paragraphs
-/

namespace Part

def paragraph? : Part -> Option (List Inline × Text)
  | paragraph content ending => some (content, ending)
  | _ => none

theorem paragraph?_eq_some_iff {part : Part} {content : List Inline} {ending : Text} :
    part.paragraph? = some (content, ending) ↔ part = paragraph content ending := by
  cases part with
  | markup s =>
      simp [paragraph?]
  | freshLine =>
      simp [paragraph?]
  | heading level anchor content =>
      simp [paragraph?]
  | paragraph content ending =>
      simp [paragraph?]
  | code info literal =>
      simp [paragraph?]

theorem paragraph?_eq_none_of_isBare (part : Part) (h : part.isBare = true) :
    part.paragraph? = none := by
  cases part with
  | markup s =>
      rfl
  | freshLine =>
      rfl
  | heading level anchor content =>
      cases h
  | paragraph content ending =>
      cases h
  | code info literal =>
      cases h

end Part

def paragraphsOf (parts : List Part) : List (List Inline × Text) :=
  parts.filterMap Part.paragraph?

theorem paragraphsOf_append (parts others : List Part) :
    paragraphsOf (parts ++ others) = paragraphsOf parts ++ paragraphsOf others := by
  exact List.filterMap_append

theorem paragraphsOf_around {opening closing : List Part} (hopening : paragraphsOf opening = [])
    (hclosing : paragraphsOf closing = []) (parts : List Part) :
    paragraphsOf (opening ++ parts ++ closing) = paragraphsOf parts := by
  rw [paragraphsOf_append, paragraphsOf_append, hopening, hclosing, List.nil_append,
    List.append_nil]

inductive NoteEnding : Text -> Prop where
  | space : NoteEnding [' ']
  | links (name : Text) (number calls : Nat) : NoteEnding (' ' :: backLinks name number calls)

/-- Whether a paragraph of a document is printed in the given way. -/
structure Shows (printed : List Inline × Text) (paragraph : Paragraph) : Prop where
  content : printed.1 = paragraph.content
  plain : paragraph.endsNote = false -> printed.2 = []
  ending : paragraph.endsNote = true -> NoteEnding printed.2

namespace Shows

theorem alone (content : List Inline) :
    Shows (content, []) { content := content, endsNote := false } where
  content := rfl
  plain := fun _ => rfl
  ending := fun h => by cases h

theorem atEnd (content : List Inline) {ending : Text} (h : NoteEnding ending) :
    Shows (content, ending) { content := content, endsNote := true } where
  content := rfl
  plain := fun h => by cases h
  ending := fun _ => h

theorem ending_ne_nil_iff {printed : List Inline × Text} {paragraph : Paragraph}
    (h : Shows printed paragraph) : printed.2 ≠ [] ↔ paragraph.endsNote = true := by
  cases hnote : paragraph.endsNote with
  | false =>
      simp [h.plain hnote]
  | true =>
      cases hending : printed.2 with
      | nil =>
          have hnil := h.ending hnote
          rw [hending] at hnil
          cases hnil
      | cons c s =>
          simp

end Shows

theorem paragraphParts_shows (tight : Bool) (noteEnd : NoteEnd) (trail : Trail)
    (content : List Inline) :
    List.Forall₂ Shows (paragraphsOf (paragraphParts tight noteEnd trail content).1)
      (blockParagraphs tight noteEnd.isSome (Block.paragraph content)) := by
  unfold paragraphParts
  cases tight with
  | true =>
      exact List.Forall₂.nil
  | false =>
      cases noteEnd with
      | none =>
          exact List.Forall₂.cons (Shows.alone content) List.Forall₂.nil
      | some note =>
          cases hlinks : trail.backLinks note.1 note.2 with
          | none =>
              simp only [hlinks]
              exact List.Forall₂.cons (Shows.atEnd content NoteEnding.space) List.Forall₂.nil
          | some found =>
              have hending : NoteEnding (' ' :: found.1) := by
                rw [(Trail.eq_of_backLinks hlinks).1]
                exact NoteEnding.links note.1 trail.notes note.2
              simp only [hlinks]
              exact List.Forall₂.cons (Shows.atEnd content hending) List.Forall₂.nil

theorem isSome_noteEnd (rest : List Block) (noteEnd : NoteEnd) :
    (if rest.isEmpty then noteEnd else none).isSome = (rest.isEmpty && noteEnd.isSome) := by
  cases rest with
  | nil =>
      rfl
  | cons block rest =>
      rfl

mutual

theorem blockParts_shows (anchored : Bool) :
    forall (block : Block) (tight : Bool) (noteEnd : NoteEnd) (trail : Trail),
      List.Forall₂ Shows (paragraphsOf (blockParts anchored tight noteEnd trail block).1)
        (blockParagraphs tight noteEnd.isSome block)
  | Block.paragraph content, tight, noteEnd, trail =>
      paragraphParts_shows tight noteEnd trail content
  | Block.heading level content, _, _, trail => by
      rw [blockParts, headingParts]
      cases anchored with
      | true =>
          exact List.Forall₂.nil
      | false =>
          exact List.Forall₂.nil
  | Block.code _ _, _, _, _ => List.Forall₂.nil
  | Block.html _, _, _, _ => List.Forall₂.nil
  | Block.rule, _, _, _ => List.Forall₂.nil
  | Block.term _, _, _, _ => List.Forall₂.nil
  | Block.table columns rows, _, _, _ => by
      have hnone := filterMap_tableParts Part.paragraph?_eq_none_of_isBare columns rows
      rw [blockParts, blockParagraphs, paragraphsOf, hnone]
      exact List.Forall₂.nil
  | Block.quote content, _, _, trail => by
      rw [blockParts, blockParagraphs, paragraphsOf_around rfl rfl]
      exact blocksParts_shows anchored content false none trail
  | Block.list _ isTight items, _, _, trail => by
      rw [blockParts, blockParagraphs, paragraphsOf_around rfl rfl]
      exact blocksParts_shows anchored items isTight none trail
  | Block.item content, tight, _, trail => by
      rw [blockParts, blockParagraphs, paragraphsOf_around rfl rfl]
      exact blocksParts_shows anchored content tight none trail
  | Block.definitions content, _, _, trail => by
      rw [blockParts, blockParagraphs, paragraphsOf_around rfl rfl]
      exact blocksParts_shows anchored content false none trail
  | Block.details isTight content, _, _, trail => by
      rw [blockParts, blockParagraphs, paragraphsOf_around rfl rfl]
      exact blocksParts_shows anchored content isTight none trail
  | Block.note name calls content, _, _, trail => by
      have hcontent := blocksParts_shows anchored content false (some (name, calls))
        { trail with notes := trail.notes + 1 }
      rw [blockParts, blockParagraphs, paragraphsOf_around]
      · exact hcontent
      · split <;> rfl
      · rfl

theorem blocksParts_shows (anchored : Bool) :
    forall (blocks : List Block) (tight : Bool) (noteEnd : NoteEnd) (trail : Trail),
      List.Forall₂ Shows (paragraphsOf (blocksParts anchored tight noteEnd trail blocks).1)
        (blocksParagraphs tight noteEnd.isSome blocks)
  | [], _, _, _ => List.Forall₂.nil
  | block :: rest, tight, noteEnd, trail => by
      have hfirst :=
        blockParts_shows anchored block tight (if rest.isEmpty then noteEnd else none) trail
      have hrest := blocksParts_shows anchored rest tight noteEnd
        (blockParts anchored tight (if rest.isEmpty then noteEnd else none) trail block).2
      rw [isSome_noteEnd] at hfirst
      rw [blocksParts, blocksParagraphs, paragraphsOf_append]
      exact List.rel_append hfirst hrest

end

theorem parts_shows (anchored : Bool) (document : Document) :
    List.Forall₂ Shows (paragraphsOf (parts anchored document)) (paragraphs document) := by
  have hshows := blocksParts_shows anchored document false none Trail.start
  simp only [parts]
  split
  · exact hshows
  · have hclosing : paragraphsOf [Part.markup "</ol>\n</section>\n"] = [] := rfl
    rw [paragraphsOf_append, hclosing, List.append_nil]
    exact hshows

theorem exists_part_of_paragraph (anchored : Bool) {document : Document}
    {before after : List Paragraph} {paragraph : Paragraph}
    (h : paragraphs document = before ++ paragraph :: after) :
    exists lead ending behind,
      parts anchored document = lead ++ Part.paragraph paragraph.content ending :: behind ∧
        (paragraphsOf lead).length = before.length ∧
        Shows (paragraph.content, ending) paragraph := by
  have hshows := parts_shows anchored document
  rw [h] at hshows
  have htake := List.forall₂_take_append _ _ _ hshows
  have hdrop := List.forall₂_drop_append _ _ _ hshows
  rcases List.forall₂_cons_right_iff.mp hdrop with ⟨printed, others, hprinted, _, hothers⟩
  have hsplit : paragraphsOf (parts anchored document) =
      (paragraphsOf (parts anchored document)).take before.length ++ printed :: others := by
    rw [← hothers, List.take_append_drop]
  rcases List.filterMap_eq_append_iff.mp hsplit with ⟨first, rest, hparts, hfirst, hrest⟩
  rcases List.filterMap_eq_cons_iff.mp hrest with ⟨skipped, part, behind, hrest, hnone, hpart, _⟩
  have hpart : part = Part.paragraph paragraph.content printed.2 := by
    rw [← hprinted.content]
    exact Part.paragraph?_eq_some_iff.mp hpart
  refine ⟨first ++ skipped, printed.2, behind, ?_, ?_, ?_⟩
  · rw [hparts, hrest, hpart, List.append_assoc]
  · have hskipped : paragraphsOf skipped = [] := List.filterMap_eq_nil_iff.mpr hnone
    rw [paragraphsOf_append, hskipped, List.append_nil]
    exact (congrArg List.length hfirst).trans htake.length_eq
  · rw [← hprinted.content]
    exact hprinted

end Markdown
end Folio
