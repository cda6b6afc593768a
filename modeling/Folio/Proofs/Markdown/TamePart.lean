import Folio.Proofs.Markdown.Anchor
import Folio.Proofs.Markdown.Label
import Folio.Proofs.Markdown.PlainParagraph

/-!
# Parts of documents without raw markup

Where a document has no raw markup, the tags on its page are those of the page
writer.  Only paragraphs and code begin with the tags of paragraphs and code, so
that everything else on the page is quiet.
-/

namespace Folio
namespace Markdown

/-!
# Running text
-/

namespace Inline

mutual

theorem bracket_not_mem_alt : forall inline : Inline, '<' ∉ alt inline
  | text content
  | code content
  | html content => Text.bracket_not_mem_escapeMarkup content
  | softBreak
  | hardBreak => by
      decide
  | noteCall _ _ _ => by
      simp [alt]
  | emphasis content
  | strong content
  | link _ _ content
  | image _ _ content => bracket_not_mem_altAll content

theorem bracket_not_mem_altAll : forall content : List Inline, '<' ∉ altAll content
  | [] => by
      simp [altAll]
  | inline :: rest => by
      rw [altAll, List.mem_append, not_or]
      exact ⟨bracket_not_mem_alt inline, bracket_not_mem_altAll rest⟩

end

theorem isQuiet_titleMarkup (title : Text) : Text.isQuiet (titleMarkup title) = true := by
  unfold titleMarkup
  split
  · rfl
  · exact Text.isQuiet_append (s := "\" title=\"".toList) rfl (Text.isQuiet_escapeMarkup title)

mutual

theorem isQuiet_markup :
    forall inline : Inline, isHtmlFree inline = true -> Text.isQuiet (markup inline) = true
  | text content, _ => Text.isQuiet_escapeMarkup content
  | code content, _ => by
      apply Text.isQuiet_append _ rfl
      exact Text.isQuiet_append rfl (Text.isQuiet_escapeMarkup content)
  | html _, h => by
      cases h
  | softBreak, _
  | hardBreak, _ => rfl
  | emphasis content, h
  | strong content, h => by
      apply Text.isQuiet_append _ rfl
      exact Text.isQuiet_append rfl (isQuiet_markupAll content h)
  | link target title content, h => by
      apply Text.isQuiet_append _ rfl
      refine Text.isQuiet_append ?_ (isQuiet_markupAll content h)
      refine Text.isQuiet_append ?_ rfl
      refine Text.isQuiet_append ?_ (isQuiet_titleMarkup title)
      exact Text.isQuiet_append rfl (Text.isQuiet_escapeTarget target)
  | image target title content, _ => by
      have halt := Text.isQuiet_of_not_mem (bracket_not_mem_altAll content)
      apply Text.isQuiet_append _ rfl
      refine Text.isQuiet_append ?_ (isQuiet_titleMarkup title)
      refine Text.isQuiet_append ?_ halt
      refine Text.isQuiet_append ?_ rfl
      exact Text.isQuiet_append rfl (Text.isQuiet_escapeTarget target)
  | noteCall name number occurrence, _ => by
      apply Text.isQuiet_append _ rfl
      refine Text.isQuiet_append ?_ (Text.isQuiet_ofNat number)
      refine Text.isQuiet_append ?_ rfl
      refine Text.isQuiet_append ?_ (Text.isQuiet_escapeTarget _)
      refine Text.isQuiet_append ?_ rfl
      exact Text.isQuiet_append rfl (Text.isQuiet_escapeTarget name)

theorem isQuiet_markupAll :
    forall content : List Inline, allHtmlFree content = true ->
      Text.isQuiet (markupAll content) = true
  | [], _ => rfl
  | inline :: rest, h => by
      rw [allHtmlFree, Bool.and_eq_true] at h
      exact Text.isQuiet_append (isQuiet_markup inline h.1) (isQuiet_markupAll rest h.2)

end

end Inline

/-!
# Paragraphs
-/

theorem isQuiet_paragraphMarkup {content : List Inline} {ending : Text}
    (hcontent : Inline.allHtmlFree content = true) (hending : Ending ending) :
    Text.isQuiet ('p' :: '>' :: (Inline.markupAll content ++ ending ++ "</p>\n".toList)) = true := by
  apply Text.isQuiet_append (s := ['p', '>']) rfl
  apply Text.isQuiet_append _ rfl
  exact Text.isQuiet_append (Inline.isQuiet_markupAll content hcontent) hending.isQuiet

theorem paragraphMarkup_line (content : List Inline) (ending : Text) :
    paragraphMarkup content ending ++ ['\n'] =
      '<' :: 'p' :: '>' :: (Inline.markupAll content ++ ending ++ "</p>\n".toList) := by
  have hclosing : "</p>\n".toList = "</p>".toList ++ ['\n'] := rfl
  have hopening : "<p>".toList = ['<', 'p', '>'] := rfl
  rw [paragraphMarkup, hclosing, hopening]
  simp only [List.append_assoc, List.cons_append, List.nil_append]

/-!
# Headings
-/

theorem isQuiet_headingMarkup (level : Nat) {anchor : Option Text} {content : List Inline}
    (hanchor : forall id, anchor = some id -> '<' ∉ id)
    (hcontent : Inline.allHtmlFree content = true) :
    Text.isQuiet (headingMarkup level anchor content) = true := by
  have hlevel := Text.isQuiet_ofNat level
  unfold headingMarkup
  apply Text.isQuiet_append _ rfl
  refine Text.isQuiet_append ?_ hlevel
  refine Text.isQuiet_append ?_ rfl
  refine Text.isQuiet_append ?_ (Inline.isQuiet_markupAll content hcontent)
  apply Text.isQuiet_append
  · exact Text.isQuiet_append (Text.isQuiet_append rfl hlevel) rfl
  · cases anchor with
    | none =>
        rfl
    | some id =>
        have hid := Text.isQuiet_of_not_mem (hanchor id rfl)
        apply Text.isQuiet_append _ rfl
        refine Text.isQuiet_append ?_ hid
        refine Text.isQuiet_append ?_ rfl
        exact Text.isQuiet_append rfl hid

/-!
# Tame parts
-/

/-- Whether no paragraph and no code begins in a part, unless it is one itself. -/
def Part.IsTame : Part -> Prop
  | markup s => Text.isQuiet s = true
  | freshLine => True
  | heading level anchor content => Text.isQuiet (headingMarkup level anchor content) = true
  | paragraph content ending => Inline.allHtmlFree content = true ∧ Ending ending
  | code info _ => languageOf info ≠ some []

structure Block.IsTame (block : Block) : Prop where
  html : block.isHtmlFree = true
  label : forall info literal, block = Block.code info literal -> languageOf info ≠ some []

def AllTame (parts : List Part) : Prop :=
  forall part, part ∈ parts -> part.IsTame

namespace AllTame

theorem nil : AllTame [] := by
  intro part hpart
  cases hpart

theorem cons {part : Part} {parts : List Part} (hpart : part.IsTame) (hparts : AllTame parts) :
    AllTame (part :: parts) :=
  List.forall_mem_cons.mpr ⟨hpart, hparts⟩

theorem append {parts others : List Part} (hparts : AllTame parts) (hothers : AllTame others) :
    AllTame (parts ++ others) :=
  List.forall_mem_append.mpr ⟨hparts, hothers⟩

theorem line {s : Text} (h : Text.isQuiet s = true) : AllTame [Part.freshLine, Part.markup s] :=
  cons trivial (cons h nil)

theorem single {s : Text} (h : Text.isQuiet s = true) : AllTame [Part.markup s] :=
  cons h nil

end AllTame

theorem isQuiet_alignmentMarkup (alignment : Alignment) :
    Text.isQuiet (alignmentMarkup alignment) = true := by
  cases alignment <;> rfl

section Tables

variable {tag : Text}

theorem cellParts_tame (hopening : Text.isQuiet ("<".toList ++ tag) = true)
    (hclosing : Text.isQuiet ("</".toList ++ tag) = true) (columns : List Alignment)
    (row : List (List Inline)) (h : row.all Inline.allHtmlFree = true) :
    AllTame (cellParts tag columns row) := by
  induction row generalizing columns with
  | nil =>
      exact AllTame.nil
  | cons cell rest ih =>
      rw [List.all_cons, Bool.and_eq_true] at h
      have hcell := Inline.isQuiet_markupAll cell h.1
      refine AllTame.cons trivial (AllTame.cons ?_ (ih (columns.drop 1) h.2))
      apply Text.isQuiet_append _ rfl
      rw [List.append_assoc _ "</".toList]
      refine Text.isQuiet_append ?_ hclosing
      refine Text.isQuiet_append ?_ hcell
      refine Text.isQuiet_append ?_ rfl
      exact Text.isQuiet_append hopening (isQuiet_alignmentMarkup _)

theorem rowParts_tame (hopening : Text.isQuiet ("<".toList ++ tag) = true)
    (hclosing : Text.isQuiet ("</".toList ++ tag) = true) (columns : List Alignment)
    (row : List (List Inline)) (h : row.all Inline.allHtmlFree = true) :
    AllTame (rowParts tag columns row) := by
  apply AllTame.append _ (AllTame.line rfl)
  exact AllTame.append (AllTame.line rfl) (cellParts_tame hopening hclosing columns row h)

theorem tableParts_tame (columns : List Alignment) (rows : List (List (List Inline)))
    (h : rows.all (fun row => row.all Inline.allHtmlFree) = true) :
    AllTame (tableParts columns rows) := by
  cases rows with
  | nil =>
      exact AllTame.nil
  | cons header rows =>
      rw [List.all_cons, Bool.and_eq_true] at h
      apply AllTame.append _ (AllTame.line rfl)
      apply AllTame.append
      · apply AllTame.append _ (AllTame.line rfl)
        exact AllTame.append (AllTame.line rfl) (rowParts_tame rfl rfl columns header h.1)
      · split
        · exact AllTame.nil
        · apply AllTame.append _ (AllTame.line rfl)
          apply AllTame.append (AllTame.line rfl)
          intro part hpart
          rcases List.mem_flatMap.mp hpart with ⟨row, hrow, hpart⟩
          have hfree := List.all_eq_true.mp h.2 row hrow
          exact rowParts_tame rfl rfl columns row hfree part hpart

end Tables

theorem isQuiet_backLinks (name : Text) (number calls : Nat) :
    Text.isQuiet (backLinks name number calls) = true :=
  isQuiet_join_links name number (List.range calls)

theorem paragraphParts_tame (tight : Bool) (noteEnd : NoteEnd) (trail : Trail)
    {content : List Inline} (h : Inline.allHtmlFree content = true) :
    AllTame (paragraphParts tight noteEnd trail content).1 := by
  have hparagraph : forall ending, Ending ending ->
      AllTame [Part.freshLine, Part.paragraph content ending] := by
    intro ending hending
    exact AllTame.cons trivial (AllTame.cons ⟨h, hending⟩ AllTame.nil)
  unfold paragraphParts
  cases tight with
  | true =>
      exact AllTame.single (Inline.isQuiet_markupAll content h)
  | false =>
      cases noteEnd with
      | none =>
          exact hparagraph [] Ending.none
      | some note =>
          cases hlinks : trail.backLinks note.1 note.2 with
          | none =>
              simp only [hlinks]
              exact hparagraph [' '] Ending.space
          | some found =>
              simp only [hlinks]
              rw [(Trail.eq_of_backLinks hlinks).1]
              exact hparagraph _ (NoteEnding.links note.1 trail.notes note.2).ending

theorem headingParts_tame (anchored : Bool) (trail : Trail) (level : Nat) {content : List Inline}
    (h : Inline.allHtmlFree content = true) :
    AllTame (headingParts anchored trail level content).1 := by
  have hheading : forall anchor : Option Text, (forall id, anchor = some id -> '<' ∉ id) ->
      AllTame [Part.freshLine, Part.heading level anchor content] := by
    intro anchor hanchor
    exact AllTame.cons trivial (AllTame.cons (isQuiet_headingMarkup level hanchor h) AllTame.nil)
  unfold headingParts
  cases anchored with
  | true =>
      apply hheading
      intro id hid
      injection hid with hid
      rw [← hid]
      exact Anchors.not_mem_assign rfl rfl _ _
  | false =>
      apply hheading
      intro id hid
      cases hid

theorem isQuiet_listStart (style : ListStyle) :
    Text.isQuiet ("<".toList ++ listTag style ++ listAttributes style ++ ">\n".toList) = true := by
  apply Text.isQuiet_append _ rfl
  cases style with
  | bullet =>
      rfl
  | numbered start =>
      apply Text.isQuiet_append (s := "<ol".toList) rfl
      rw [listAttributes]
      split
      · rfl
      · apply Text.isQuiet_append _ rfl
        exact Text.isQuiet_append rfl (Text.isQuiet_ofNat start)

theorem isQuiet_listEnd (style : ListStyle) :
    Text.isQuiet ("</".toList ++ listTag style ++ ">\n".toList) = true := by
  cases style <;> rfl

section Blocks

variable (anchored : Bool)

mutual

theorem blockParts_tame :
    forall (block : Block) (tight : Bool) (noteEnd : NoteEnd) (trail : Trail),
      (forall inner, inner ∈ block.preorder -> inner.IsTame) ->
        AllTame (blockParts anchored tight noteEnd trail block).1
  | Block.paragraph content, tight, noteEnd, trail, h =>
      paragraphParts_tame tight noteEnd trail (h _ List.mem_cons_self).html
  | Block.heading level content, _, _, trail, h =>
      headingParts_tame anchored trail level (h _ List.mem_cons_self).html
  | Block.code info literal, _, _, _, h => by
      have hlabel := (h _ List.mem_cons_self).label info literal rfl
      exact AllTame.cons trivial (AllTame.cons hlabel AllTame.nil)
  | Block.html _, _, _, _, h => by
      cases (h _ List.mem_cons_self).html
  | Block.rule, _, _, _, _ => AllTame.line rfl
  | Block.table columns rows, _, _, _, h =>
      tableParts_tame columns rows (h _ List.mem_cons_self).html
  | Block.term content, _, _, _, h => by
      have hcontent := Inline.isQuiet_markupAll content (h _ List.mem_cons_self).html
      apply AllTame.single
      exact Text.isQuiet_append (Text.isQuiet_append rfl hcontent) rfl
  | Block.quote content, _, _, trail, h => by
      have hcontent := blocksParts_tame content false none trail (List.forall_mem_cons.mp h).2
      exact AllTame.append (AllTame.append (AllTame.line rfl) hcontent) (AllTame.line rfl)
  | Block.list style isTight items, _, _, trail, h => by
      have hitems := blocksParts_tame items isTight none trail (List.forall_mem_cons.mp h).2
      have hstart := AllTame.line (isQuiet_listStart style)
      have hend := AllTame.single (isQuiet_listEnd style)
      exact AllTame.append (AllTame.append hstart hitems) hend
  | Block.item content, tight, _, trail, h => by
      have hcontent := blocksParts_tame content tight none trail (List.forall_mem_cons.mp h).2
      exact AllTame.append (AllTame.append (AllTame.line rfl) hcontent) (AllTame.single rfl)
  | Block.definitions content, _, _, trail, h => by
      have hcontent := blocksParts_tame content false none trail (List.forall_mem_cons.mp h).2
      exact AllTame.append (AllTame.append (AllTame.line rfl) hcontent) (AllTame.single rfl)
  | Block.details isTight content, _, _, trail, h => by
      have hcontent := blocksParts_tame content isTight none trail (List.forall_mem_cons.mp h).2
      exact AllTame.append (AllTame.append (AllTame.single rfl) hcontent) (AllTame.single rfl)
  | Block.note name calls content, _, _, trail, h => by
      have hcontent := blocksParts_tame content false (some (name, calls))
        { trail with notes := trail.notes + 1 } (List.forall_mem_cons.mp h).2
      have hitem : Text.isQuiet ("<li id=\"fn-".toList ++ Text.escapeTarget name ++ "\">".toList) =
          true := by
        apply Text.isQuiet_append _ rfl
        exact Text.isQuiet_append rfl (Text.isQuiet_escapeTarget name)
      rw [blockParts]
      dsimp only
      apply AllTame.append
      · refine AllTame.append (AllTame.append ?_ (AllTame.single hitem)) hcontent
        split
        · exact AllTame.single rfl
        · exact AllTame.nil
      · apply AllTame.single
        apply Text.isQuiet_append _ rfl
        split
        · rename_i hlinks
          rw [(Trail.eq_of_backLinks hlinks).1]
          exact Text.isQuiet_append (isQuiet_backLinks name _ calls) rfl
        · rfl

theorem blocksParts_tame :
    forall (blocks : List Block) (tight : Bool) (noteEnd : NoteEnd) (trail : Trail),
      (forall inner, inner ∈ Block.preorderAll blocks -> inner.IsTame) ->
        AllTame (blocksParts anchored tight noteEnd trail blocks).1
  | [], _, _, _, _ => AllTame.nil
  | block :: rest, tight, noteEnd, trail, h => by
      rw [Block.preorderAll, List.forall_mem_append] at h
      rw [blocksParts]
      exact AllTame.append (blockParts_tame block tight _ trail h.1)
        (blocksParts_tame rest tight noteEnd _ h.2)

end

theorem parts_tame {document : Document}
    (h : forall block, block ∈ Block.preorderAll document -> block.IsTame) :
    AllTame (parts anchored document) := by
  have hparts := blocksParts_tame anchored document false none Trail.start h
  unfold parts
  dsimp only
  split
  · exact hparts
  · exact AllTame.append hparts (AllTame.single rfl)

theorem parts_read_tame {dialect : Dialect} {source : Text} (h : HtmlFree (read dialect source)) :
    AllTame (parts anchored (read dialect source)) := by
  apply parts_tame
  intro block hblock
  refine ⟨h block hblock, ?_⟩
  rintro info literal rfl
  exact languageOf_of_mem_read hblock

end Blocks

end Markdown
end Folio
