import Folio.Proofs.Markdown.Element

/-!
# Elements of blocks

The anchors that a document prints are those of its headings, as they are collected for
the table of contents, and those of its notes and of their calls.  The page has them in
another order, so that the two sides are compared as permutations.
-/

namespace Folio
namespace Markdown

open Markup (Element Place Finds)

/-!
# Anchors of notes
-/

namespace Block

def noteIds : Block -> List Text
  | paragraph content => Inline.callIdsAll content
  | heading _ content => Inline.callIdsAll content
  | term content => Inline.callIdsAll content
  | table _ rows => rows.flatMap fun row => row.flatMap Inline.callIdsAll
  | note name _ _ => ["fn-" ++ Text.escapeTarget name]
  | _ => []

end Block

/-- The anchors of all notes and calls of a document. -/
def noteIds (document : Document) : List Text :=
  (Block.preorderAll document).flatMap Block.noteIds

/-!
# Anchors of parts
-/

/-- Whether what a part prints has the given anchors.  Code has none, in whatever way it
is printed. -/
def Part.Carries : Part -> List Text -> Prop
  | markup s, ids => Finds Place.text s Place.text ids
  | freshLine, ids => ids = []
  | heading level anchor content, ids =>
      Finds Place.text (headingMarkup level anchor content) Place.text ids
  | paragraph content ending, ids =>
      Finds Place.text (paragraphMarkup content ending) Place.text ids
  | code _ _, ids => ids = []

inductive Carries : List Part -> List Text -> Prop where
  | nil : Carries [] []
  | cons {part : Part} {parts : List Part} {ids others : List Text} (hpart : part.Carries ids)
      (hparts : Carries parts others) : Carries (part :: parts) (ids ++ others)

namespace Carries

theorem append {parts more : List Part} {ids others : List Text} (h : Carries parts ids)
    (hmore : Carries more others) : Carries (parts ++ more) (ids ++ others) := by
  induction h with
  | nil =>
      exact hmore
  | cons hpart _ ih =>
      rw [List.cons_append, List.append_assoc]
      exact Carries.cons hpart ih

theorem single (part : Part) {ids : List Text} (h : part.Carries ids) : Carries [part] ids := by
  have hparts := Carries.cons h Carries.nil
  rw [List.append_nil] at hparts
  exact hparts

theorem line (part : Part) {ids : List Text} (h : part.Carries ids) :
    Carries [Part.freshLine, part] ids := by
  have hfresh : Part.freshLine.Carries [] := rfl
  exact Carries.cons hfresh (single part h)

theorem markup {s : Text} {ids : List Text} (h : Finds Place.text s Place.text ids) :
    Carries [Part.markup s] ids :=
  single (Part.markup s) h

theorem markupLine {s : Text} {ids : List Text} (h : Finds Place.text s Place.text ids) :
    Carries [Part.freshLine, Part.markup s] ids :=
  line (Part.markup s) h

theorem behind {parts closing : List Part} {ids : List Text} (h : Carries parts ids)
    (hclosing : Carries closing []) : Carries (parts ++ closing) ids := by
  have hall := h.append hclosing
  rw [List.append_nil] at hall
  exact hall

theorem between {parts opening closing : List Part} {ids : List Text} (h : Carries parts ids)
    (hopening : Carries opening []) (hclosing : Carries closing []) :
    Carries (opening ++ parts ++ closing) ids :=
  (hopening.append h).behind hclosing

end Carries

/-!
# Tables
-/

section Tables

variable {tag : Text}
  (hopening : forall alignment,
    Finds Place.text ("<".toList ++ tag ++ alignmentMarkup alignment ++ ">".toList) Place.text [])
  (hclosing : Finds Place.text ("</".toList ++ tag ++ ">".toList) Place.text [])

include hopening hclosing

theorem cellParts_carries (columns : List Alignment) (row : List (List Inline))
    (h : row.all Inline.allHtmlFree = true) :
    Carries (cellParts tag columns row) (row.flatMap Inline.callIdsAll) := by
  induction row generalizing columns with
  | nil =>
      exact Carries.nil
  | cons cell rest ih =>
      rw [List.all_cons, Bool.and_eq_true] at h
      have hcell := ((hopening (columns.head?.getD Alignment.none)).before
        (Inline.finds_markupAll cell h.1)).behind hclosing
      simp only [← List.append_assoc] at hcell
      exact (Carries.markupLine hcell).append (ih (columns.drop 1) h.2)

theorem rowParts_carries (columns : List Alignment) (row : List (List Inline))
    (h : row.all Inline.allHtmlFree = true) :
    Carries (rowParts tag columns row) (row.flatMap Inline.callIdsAll) :=
  (cellParts_carries hopening hclosing columns row h).between (Carries.markupLine ⟨rfl, rfl⟩)
    (Carries.markupLine ⟨rfl, rfl⟩)

end Tables

theorem headerParts_carries (columns : List Alignment) (row : List (List Inline))
    (h : row.all Inline.allHtmlFree = true) :
    Carries (rowParts "th" columns row) (row.flatMap Inline.callIdsAll) := by
  apply rowParts_carries _ ⟨rfl, rfl⟩ columns row h
  intro alignment
  cases alignment <;> exact ⟨rfl, rfl⟩

theorem bodyParts_carries (columns : List Alignment) (rows : List (List (List Inline)))
    (h : rows.all (fun row => row.all Inline.allHtmlFree) = true) :
    Carries (rows.flatMap (rowParts "td" columns))
      (rows.flatMap fun row => row.flatMap Inline.callIdsAll) := by
  induction rows with
  | nil =>
      exact Carries.nil
  | cons row rest ih =>
      rw [List.all_cons, Bool.and_eq_true] at h
      refine Carries.append ?_ (ih h.2)
      apply rowParts_carries _ ⟨rfl, rfl⟩ columns row h.1
      intro alignment
      cases alignment <;> exact ⟨rfl, rfl⟩

theorem tableParts_carries (columns : List Alignment) (rows : List (List (List Inline)))
    (h : rows.all (fun row => row.all Inline.allHtmlFree) = true) :
    Carries (tableParts columns rows) (rows.flatMap fun row => row.flatMap Inline.callIdsAll) := by
  cases rows with
  | nil =>
      exact Carries.nil
  | cons header rows =>
      rw [List.all_cons, Bool.and_eq_true] at h
      have hheader := (headerParts_carries columns header h.1).between
        (Carries.markupLine (s := "<table>\n<thead>".toList) ⟨rfl, rfl⟩)
        (Carries.markupLine (s := "</thead>".toList) ⟨rfl, rfl⟩)
      have hbody := (bodyParts_carries columns rows h.2).between
        (Carries.markupLine (s := "<tbody>".toList) ⟨rfl, rfl⟩)
        (Carries.markupLine (s := "</tbody>\n".toList) ⟨rfl, rfl⟩)
      have hend : Carries [Part.freshLine, Part.markup "</table>\n"] [] :=
        Carries.markupLine ⟨rfl, rfl⟩
      cases rows with
      | nil =>
          exact (hheader.append Carries.nil).behind hend
      | cons row rest =>
          exact (hheader.append hbody).behind hend

/-!
# Blocks
-/

theorem paragraphParts_carries (tight : Bool) (noteEnd : NoteEnd) (trail : Trail)
    {content : List Inline} (h : Inline.allHtmlFree content = true) :
    Carries (paragraphParts tight noteEnd trail content).1 (Inline.callIdsAll content) := by
  have hparagraph : forall ending, Finds Place.text ending Place.text [] ->
      Carries [Part.freshLine, Part.paragraph content ending] (Inline.callIdsAll content) := by
    intro ending hending
    exact Carries.line (Part.paragraph content ending) (finds_paragraph h hending)
  have hspace : Finds Place.text [' '] Place.text [] := ⟨rfl, rfl⟩
  unfold paragraphParts
  cases tight with
  | true =>
      exact Carries.markup (Inline.finds_markupAll content h)
  | false =>
      cases noteEnd with
      | none =>
          exact hparagraph [] (Finds.nil Place.text)
      | some note =>
          cases hlinks : trail.backLinks note.1 note.2 with
          | none =>
              simp only [hlinks]
              exact hparagraph [' '] hspace
          | some found =>
              simp only [hlinks]
              rw [(Trail.eq_of_backLinks hlinks).1]
              exact hparagraph _ (hspace.before (finds_backLinks note.1 trail.notes note.2))

theorem finds_listTags (style : ListStyle) :
    Finds Place.text ("<".toList ++ listTag style ++ listAttributes style ++ ">\n".toList)
        Place.text [] ∧
      Finds Place.text ("</".toList ++ listTag style ++ ">\n".toList) Place.text [] := by
  cases style with
  | bullet =>
      exact ⟨⟨rfl, rfl⟩, ⟨rfl, rfl⟩⟩
  | numbered start =>
      refine ⟨?_, ⟨rfl, rfl⟩⟩
      rw [listAttributes]
      split
      · exact ⟨rfl, rfl⟩
      · have hname : Finds Place.text ("<".toList ++ listTag (ListStyle.numbered start))
            (Place.name "ol") [] := ⟨rfl, rfl⟩
        have hstart : Finds (Place.name "ol") " start=\"".toList
            (Place.value (Element.named "ol") "start" []) [] := ⟨rfl, rfl⟩
        have hend : forall v, Finds (Place.value (Element.named "ol") "start" v) "\"".toList
            (Place.gap ((Element.named "ol").add "start" v)) [] := fun _ => ⟨rfl, rfl⟩
        have hclose : forall v, Finds (Place.gap ((Element.named "ol").add "start" v))
            ">\n".toList Place.text [] := fun _ => ⟨rfl, rfl⟩
        have hnumber := Finds.whole (Text.quote_not_mem_ofNat start) (Element.named "ol") "start"
        exact (hname.before ((hstart.before hnumber).before (hend _))).before (hclose _)

theorem finds_noteStart (name : Text) :
    Finds Place.text ("<li id=\"fn-".toList ++ Text.escapeTarget name ++ "\">".toList) Place.text
      ["fn-" ++ Text.escapeTarget name] := by
  have hstart : Finds Place.text "<li id=\"fn-".toList
      (Place.value (Element.named "li") "id" "fn-") [] := ⟨rfl, rfl⟩
  have hend : forall v, Finds (Place.value (Element.named "li") "id" v) "\">".toList
      Place.text [v] := fun _ => ⟨rfl, rfl⟩
  exact (hstart.before (Finds.value (Text.quote_not_mem_escapeTarget name) _ _)).before (hend _)

/-!
# Anchors of blocks
-/

/-- Whether parts have the anchors of some headings and some further anchors, in any
order. -/
def Bears (parts : List Part) (headings : List Toc.Heading) (notes : List Text) : Prop :=
  exists ids, Carries parts ids ∧ ids.Perm (headings.map Toc.Heading.id ++ notes)

namespace Bears

theorem of_carries {parts : List Part} {notes : List Text} (h : Carries parts notes) :
    Bears parts [] notes :=
  ⟨notes, h, List.Perm.refl notes⟩

theorem append {parts others : List Part} {headings lower : List Toc.Heading}
    {notes more : List Text} (h : Bears parts headings notes) (hothers : Bears others lower more) :
    Bears (parts ++ others) (headings ++ lower) (notes ++ more) := by
  rcases h with ⟨ids, hparts, hids⟩
  rcases hothers with ⟨rest, hrest, hperm⟩
  refine ⟨ids ++ rest, hparts.append hrest, (hids.append hperm).trans ?_⟩
  rw [List.map_append, List.append_assoc, List.append_assoc]
  exact List.Perm.append_left _ (List.perm_append_comm_assoc _ _ _)

theorem between {parts opening closing : List Part} {headings : List Toc.Heading}
    {notes own : List Text} (h : Bears parts headings notes) (hopening : Carries opening own)
    (hclosing : Carries closing []) :
    Bears (opening ++ parts ++ closing) headings (own ++ notes) := by
  have hall := ((of_carries hopening).append h).append (of_carries hclosing)
  rw [List.append_nil, List.append_nil] at hall
  exact hall

end Bears

theorem headingParts_bears (trail : Trail) (level : Nat) {content : List Inline}
    (h : Inline.allHtmlFree content = true) :
    Bears (headingParts true trail level content).1
      (blockHeadings trail.anchors (Block.heading level content)).1
      (Inline.callIdsAll content) := by
  have hquote := Anchors.not_mem_assign (c := '"') rfl rfl trail.anchors
    (Inline.plainAll content)
  exact ⟨_, Carries.line _ (finds_heading level hquote h), List.Perm.refl _⟩

theorem Bears.of_leaf {parts : List Part} {block : Block} (hleaf : block.preorder = [block])
    (h : Carries parts block.noteIds) : Bears parts [] (block.preorder.flatMap Block.noteIds) := by
  rw [hleaf, List.flatMap_singleton]
  exact Bears.of_carries h

mutual

theorem blockParts_bears :
    forall (block : Block) (tight : Bool) (noteEnd : NoteEnd) (trail : Trail),
      (forall inner, inner ∈ block.preorder -> inner.isHtmlFree = true) ->
        Bears (blockParts true tight noteEnd trail block).1 (blockHeadings trail.anchors block).1
          (block.preorder.flatMap Block.noteIds)
  | Block.paragraph _, tight, noteEnd, trail, h =>
      Bears.of_leaf rfl (paragraphParts_carries tight noteEnd trail (h _ List.mem_cons_self))
  | Block.heading level content, _, _, trail, h => by
      rw [Block.preorder, List.flatMap_singleton]
      exact headingParts_bears trail level (h _ List.mem_cons_self)
  | Block.code info literal, _, _, _, _ => by
      have hcode : (Part.code info literal).Carries [] := rfl
      exact Bears.of_leaf rfl (Carries.line _ hcode)
  | Block.html _, _, _, _, h => by
      cases h _ List.mem_cons_self
  | Block.rule, _, _, _, _ => Bears.of_leaf rfl (Carries.markupLine ⟨rfl, rfl⟩)
  | Block.table columns rows, _, _, _, h =>
      Bears.of_leaf rfl (tableParts_carries columns rows (h _ List.mem_cons_self))
  | Block.term content, _, _, _, h => by
      have hstart : Finds Place.text "<dt>".toList Place.text [] := ⟨rfl, rfl⟩
      have hcontent := Inline.finds_markupAll content (h _ List.mem_cons_self)
      have hend : Finds Place.text "</dt>\n".toList Place.text [] := ⟨rfl, rfl⟩
      exact Bears.of_leaf rfl (Carries.markup ((hstart.before hcontent).behind hend))
  | Block.quote content, _, _, trail, h => by
      have hcontent := blocksParts_bears content false none trail (List.forall_mem_cons.mp h).2
      exact hcontent.between (Carries.markupLine ⟨rfl, rfl⟩) (Carries.markupLine ⟨rfl, rfl⟩)
  | Block.list style isTight items, _, _, trail, h => by
      have hitems := blocksParts_bears items isTight none trail (List.forall_mem_cons.mp h).2
      have htags := finds_listTags style
      exact hitems.between (Carries.markupLine htags.1) (Carries.markup htags.2)
  | Block.item content, tight, _, trail, h => by
      have hcontent := blocksParts_bears content tight none trail (List.forall_mem_cons.mp h).2
      exact hcontent.between (Carries.markupLine ⟨rfl, rfl⟩) (Carries.markup ⟨rfl, rfl⟩)
  | Block.definitions content, _, _, trail, h => by
      have hcontent := blocksParts_bears content false none trail (List.forall_mem_cons.mp h).2
      exact hcontent.between (Carries.markupLine ⟨rfl, rfl⟩) (Carries.markup ⟨rfl, rfl⟩)
  | Block.details isTight content, _, _, trail, h => by
      have hcontent := blocksParts_bears content isTight none trail (List.forall_mem_cons.mp h).2
      exact hcontent.between (Carries.markup ⟨rfl, rfl⟩) (Carries.markup ⟨rfl, rfl⟩)
  | Block.note name calls content, _, _, trail, h => by
      have hcontent := blocksParts_bears content false (some (name, calls))
        { trail with notes := trail.notes + 1 } (List.forall_mem_cons.mp h).2
      have hsection : Carries (if trail.notes = 0 then
          [Part.markup "<section class=\"footnotes\" data-footnotes>\n<ol>\n"]
        else []) [] := by
        split
        · exact Carries.markup ⟨rfl, rfl⟩
        · exact Carries.nil
      have hitem := Carries.markup (finds_noteStart name)
      have hclose : Finds Place.text "</li>\n".toList Place.text [] := ⟨rfl, rfl⟩
      have hline : Finds Place.text ['\n'] Place.text [] := ⟨rfl, rfl⟩
      rw [blockParts]
      refine hcontent.between (hsection.append hitem) (Carries.markup (Finds.before ?_ hclose))
      split
      · rename_i hlinks
        rw [(Trail.eq_of_backLinks hlinks).1]
        exact (finds_backLinks name _ calls).before hline
      · exact Finds.nil Place.text

theorem blocksParts_bears :
    forall (blocks : List Block) (tight : Bool) (noteEnd : NoteEnd) (trail : Trail),
      (forall inner, inner ∈ Block.preorderAll blocks -> inner.isHtmlFree = true) ->
        Bears (blocksParts true tight noteEnd trail blocks).1
          (blocksHeadings trail.anchors blocks).1 (noteIds blocks)
  | [], _, _, _, _ => Bears.of_carries Carries.nil
  | block :: rest, tight, noteEnd, trail, h => by
      rw [Block.preorderAll, List.forall_mem_append] at h
      have hfirst := blockParts_bears block tight (if rest.isEmpty then noteEnd else none) trail h.1
      have hrest := blocksParts_bears rest tight noteEnd
        (blockParts true tight (if rest.isEmpty then noteEnd else none) trail block).2 h.2
      rw [(blockParts_agrees block tight _ trail).anchors] at hrest
      rw [noteIds, Block.preorderAll, List.flatMap_append]
      exact hfirst.append hrest

end

theorem parts_bears {document : Document} (h : HtmlFree document) :
    Bears (parts true document) (headings document) (noteIds document) := by
  have hparts := blocksParts_bears document false none Trail.start h
  unfold parts
  dsimp only
  split
  · exact hparts
  · have hend : Carries [Part.markup "</ol>\n</section>\n"] [] := Carries.markup ⟨rfl, rfl⟩
    have hall := hparts.append (Bears.of_carries hend)
    rw [List.append_nil, List.append_nil] at hall
    exact hall

end Markdown
end Folio
