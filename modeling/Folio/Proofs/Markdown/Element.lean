import Folio.Proofs.Highlight.Page
import Folio.Proofs.Highlight.Spans
import Folio.Proofs.Text.Element

/-!
# Elements with an anchor

Three kinds of elements on a page have anchors: the headings, the notes, and the calls of
notes.  The elements of everything else that is printed from a document without raw
markup have none: what stands in their attributes has no quote, and what stands between
their tags no angle bracket.
-/

namespace Folio

open Markup (Element Place Finds)

namespace Highlight

/-!
# Highlighted code
-/

theorem finds_spanTag {classes : Text} (h : '"' ∉ classes) :
    Finds Place.text ("<span class=\"".toList ++ classes ++ "\">".toList) Place.text [] := by
  have hstart : Finds Place.text "<span class=\"".toList
      (Place.value (Element.named "span") "class" []) [] := ⟨rfl, rfl⟩
  have hclasses := Finds.whole h (Element.named "span") "class"
  have hend : forall v, Finds (Place.value (Element.named "span") "class" v) "\">".toList
      Place.text [] := fun _ => ⟨rfl, rfl⟩
  exact (hstart.before hclasses).before (hend _)

theorem SpanMarkup.finds {s : Text} (h : SpanMarkup s) : Finds Place.text s Place.text [] := by
  induction h with
  | nil =>
      exact Finds.nil Place.text
  | opening _ hquote _ ih =>
      exact (finds_spanTag hquote).before ih
  | closing _ ih =>
      have hend : Finds Place.text "</span>".toList Place.text [] := ⟨rfl, rfl⟩
      exact hend.before ih
  | text hc _ ih =>
      rename_i c s _
      have hcharacter : Finds Place.text [c] Place.text [] := Finds.text (by simp [hc.symm])
      exact hcharacter.before ih

end Highlight

namespace Markdown

/-!
# Running text
-/

namespace Inline

mutual

/-- The anchors of the note calls in running text.  What stands for an image has none. -/
def callIds : Inline -> List Text
  | noteCall name _ occurrence => [Text.escapeTarget (callAnchor name occurrence)]
  | emphasis content => callIdsAll content
  | strong content => callIdsAll content
  | link _ _ content => callIdsAll content
  | _ => []

def callIdsAll : List Inline -> List Text
  | [] => []
  | inline :: rest => callIds inline ++ callIdsAll rest

end

mutual

theorem quote_not_mem_alt : forall inline : Inline, '"' ∉ alt inline
  | text content
  | code content
  | html content => Text.quote_not_mem_escapeMarkup content
  | softBreak
  | hardBreak => by
      decide
  | noteCall _ _ _ => by
      simp [alt]
  | emphasis content
  | strong content
  | link _ _ content
  | image _ _ content => quote_not_mem_altAll content

theorem quote_not_mem_altAll : forall content : List Inline, '"' ∉ altAll content
  | [] => by
      simp [altAll]
  | inline :: rest => by
      rw [altAll, List.mem_append, not_or]
      exact ⟨quote_not_mem_alt inline, quote_not_mem_altAll rest⟩

end

theorem finds_title {element : Element} {key closing : Text}
    (hvalue : forall v, Finds (Place.value element key v) closing Place.text [])
    (htitle : forall v w,
      Finds (Place.value (element.add key v) "title" w) closing Place.text [])
    (v title : Text) :
    Finds (Place.value element key v) (titleMarkup title ++ closing) Place.text [] := by
  unfold titleMarkup
  split
  · exact hvalue v
  · have hstart : Finds (Place.value element key v) "\" title=\"".toList
        (Place.value (element.add key v) "title" []) [] := ⟨rfl, rfl⟩
    have htext := Finds.whole (Text.quote_not_mem_escapeMarkup title) (element.add key v) "title"
    exact (hstart.before htext).before (htitle v _)

theorem finds_linkTag (target title : Text) :
    Finds Place.text ("<a href=\"".toList ++ Text.escapeTarget target ++ titleMarkup title ++
      "\">".toList) Place.text [] := by
  have hstart : Finds Place.text "<a href=\"".toList
      (Place.value (Element.named "a") "href" []) [] := ⟨rfl, rfl⟩
  have htarget := Finds.whole (Text.quote_not_mem_escapeTarget target) (Element.named "a") "href"
  have hvalue : forall v,
      Finds (Place.value (Element.named "a") "href" v) "\">".toList Place.text [] :=
    fun _ => ⟨rfl, rfl⟩
  have htitle := finds_title hvalue (fun _ _ => ⟨rfl, rfl⟩) (Text.escapeTarget target) title
  rw [List.append_assoc]
  exact (hstart.before htarget).before htitle

theorem finds_image (target title : Text) (content : List Inline) :
    Finds Place.text ("<img src=\"".toList ++ Text.escapeTarget target ++ "\" alt=\"".toList ++
      altAll content ++ titleMarkup title ++ "\" />".toList) Place.text [] := by
  have hstart : Finds Place.text "<img src=\"".toList
      (Place.value (Element.named "img") "src" []) [] := ⟨rfl, rfl⟩
  have htarget := Finds.whole (Text.quote_not_mem_escapeTarget target) (Element.named "img") "src"
  have hmiddle : forall v, Finds (Place.value (Element.named "img") "src" v) "\" alt=\"".toList
      (Place.value ((Element.named "img").add "src" v) "alt" []) [] := fun _ => ⟨rfl, rfl⟩
  have halt := Finds.whole (quote_not_mem_altAll content)
    ((Element.named "img").add "src" (Text.escapeTarget target)) "alt"
  have hvalue : forall v, Finds (Place.value
      ((Element.named "img").add "src" (Text.escapeTarget target)) "alt" v) "\" />".toList
      Place.text [] := fun _ => ⟨rfl, rfl⟩
  have htitle := finds_title hvalue (fun _ _ => ⟨rfl, rfl⟩) (altAll content) title
  rw [List.append_assoc]
  exact (((hstart.before htarget).before (hmiddle _)).before halt).before htitle

theorem finds_noteCall (name : Text) (number occurrence : Nat) :
    Finds Place.text (markup (noteCall name number occurrence)) Place.text
      [Text.escapeTarget (callAnchor name occurrence)] := by
  have hstart : Finds Place.text "<sup class=\"footnote-ref\"><a href=\"#fn-".toList
      (Place.value (Element.named "a") "href" "#fn-") [] := ⟨rfl, rfl⟩
  have htarget := Finds.value (s := "#fn-".toList) (Text.quote_not_mem_escapeTarget name)
    (Element.named "a") "href"
  have hmiddle : forall v, Finds (Place.value (Element.named "a") "href" v) "\" id=\"".toList
      (Place.value ((Element.named "a").add "href" v) "id" []) [] := fun _ => ⟨rfl, rfl⟩
  have hid := Finds.whole (Text.quote_not_mem_escapeTarget (callAnchor name occurrence))
    ((Element.named "a").add "href" ("#fn-".toList ++ Text.escapeTarget name)) "id"
  have hclosed : forall v id, Finds (Place.value ((Element.named "a").add "href" v) "id" id)
      "\" data-footnote-ref>".toList Place.text [id] := fun _ _ => ⟨rfl, rfl⟩
  have hnumber := Finds.text (Text.bracket_not_mem_ofNat number)
  have hend : Finds Place.text "</a></sup>".toList Place.text [] := ⟨rfl, rfl⟩
  have htag := ((((hstart.before htarget).before (hmiddle _)).before hid).before (hclosed _ _))
  exact (htag.behind hnumber).behind hend

mutual

theorem finds_markup :
    forall inline : Inline, isHtmlFree inline = true ->
      Finds Place.text (markup inline) Place.text (callIds inline)
  | text content, _ => Finds.text (Text.bracket_not_mem_escapeMarkup content)
  | code content, _ => by
      have hstart : Finds Place.text "<code>".toList Place.text [] := ⟨rfl, rfl⟩
      have hcontent := Finds.text (Text.bracket_not_mem_escapeMarkup content)
      have hend : Finds Place.text "</code>".toList Place.text [] := ⟨rfl, rfl⟩
      exact (hstart.before hcontent).behind hend
  | html _, h => by
      cases h
  | softBreak, _
  | hardBreak, _ => ⟨rfl, rfl⟩
  | emphasis content, h => by
      have hstart : Finds Place.text "<em>".toList Place.text [] := ⟨rfl, rfl⟩
      have hend : Finds Place.text "</em>".toList Place.text [] := ⟨rfl, rfl⟩
      exact (hstart.before (finds_markupAll content h)).behind hend
  | strong content, h => by
      have hstart : Finds Place.text "<strong>".toList Place.text [] := ⟨rfl, rfl⟩
      have hend : Finds Place.text "</strong>".toList Place.text [] := ⟨rfl, rfl⟩
      exact (hstart.before (finds_markupAll content h)).behind hend
  | link target title content, h => by
      have hend : Finds Place.text "</a>".toList Place.text [] := ⟨rfl, rfl⟩
      exact ((finds_linkTag target title).before (finds_markupAll content h)).behind hend
  | image target title content, _ => finds_image target title content
  | noteCall name number occurrence, _ => finds_noteCall name number occurrence

theorem finds_markupAll :
    forall content : List Inline, allHtmlFree content = true ->
      Finds Place.text (markupAll content) Place.text (callIdsAll content)
  | [], _ => Finds.nil Place.text
  | inline :: rest, h => by
      rw [allHtmlFree, Bool.and_eq_true] at h
      exact (finds_markup inline h.1).append (finds_markupAll rest h.2)

end

end Inline

/-!
# Headings and paragraphs
-/

theorem finds_headingTags (level : Nat) :
    Finds Place.text ("<h".toList ++ Text.ofNat level ++ ">".toList) Place.text [] ∧
      Finds Place.text ("</h".toList ++ Text.ofNat level ++ ">".toList) Place.text [] := by
  constructor
  · have hstart : Finds Place.text "<h".toList (Place.name "h") [] := ⟨rfl, rfl⟩
    have hend : forall s, Finds (Place.name s) ">".toList Place.text [] := fun _ => ⟨rfl, rfl⟩
    exact (hstart.before (Finds.nameNumber _ level)).before (hend _)
  · have hstart : Finds Place.text "</h".toList Place.closing [] := ⟨rfl, rfl⟩
    have hnumber := Finds.closing (Text.not_mem_ofNat (c := '>') rfl level)
    have hend : Finds Place.closing ">".toList Place.text [] := ⟨rfl, rfl⟩
    exact (hstart.before hnumber).before hend

def anchorTag (target : Text) : Element :=
  ((((Element.named "a").add "inert" []).add "href" target).add "aria-hidden" "true").add "class"
    "anchor"

theorem finds_anchorMarkup {id : Text} (h : '"' ∉ id) :
    Finds Place.text (anchorMarkup id) Place.text [id] := by
  have hstart : Finds Place.text "<a inert href=\"#".toList
      (Place.value ((Element.named "a").add "inert" []) "href" "#") [] := ⟨rfl, rfl⟩
  have hmiddle : forall v, Finds (Place.value ((Element.named "a").add "inert" []) "href" v)
      "\" aria-hidden=\"true\" class=\"anchor\" id=\"".toList
      (Place.value (anchorTag v) "id" []) [] := fun _ => ⟨rfl, rfl⟩
  have hend : forall v id, Finds (Place.value (anchorTag v) "id" id) "\"></a>".toList
      Place.text [id] := fun _ _ => ⟨rfl, rfl⟩
  have htarget := (hstart.before (Finds.value h _ _)).before (hmiddle _)
  exact (htarget.before (Finds.whole h _ _)).before (hend _ _)

theorem finds_heading (level : Nat) {id : Text} {content : List Inline} (hid : '"' ∉ id)
    (hcontent : Inline.allHtmlFree content = true) :
    Finds Place.text (headingMarkup level (some id) content) Place.text
      (id :: Inline.callIdsAll content) := by
  have htags := finds_headingTags level
  have hinside := (finds_anchorMarkup hid).append (Inline.finds_markupAll content hcontent)
  have hheading := (htags.1.before hinside).behind htags.2
  have hmarkup : headingMarkup level (some id) content =
      "<h".toList ++ Text.ofNat level ++ ">".toList ++ anchorMarkup id ++
        Inline.markupAll content ++ "</h".toList ++ Text.ofNat level ++ ">".toList := rfl
  rw [hmarkup]
  simp only [List.append_assoc] at hheading ⊢
  exact hheading

theorem finds_paragraph {content : List Inline} {ending : Text}
    (hcontent : Inline.allHtmlFree content = true)
    (hending : Finds Place.text ending Place.text []) :
    Finds Place.text (paragraphMarkup content ending) Place.text
      (Inline.callIdsAll content) := by
  have hstart : Finds Place.text "<p>".toList Place.text [] := ⟨rfl, rfl⟩
  have hend : Finds Place.text "</p>".toList Place.text [] := ⟨rfl, rfl⟩
  exact ((hstart.before (Inline.finds_markupAll content hcontent)).behind hending).behind hend

/-!
# Links back from a note
-/

theorem quote_not_mem_mark (occurrence : Nat) :
    '"' ∉ (if 1 < occurrence then '-' :: Text.ofNat occurrence else []) := by
  split
  · simpa using Text.quote_not_mem_ofNat occurrence
  · simp

theorem finds_raised (occurrence : Nat) :
    Finds Place.text (if 1 < occurrence then
      "<sup class=\"footnote-ref\">".toList ++ Text.ofNat occurrence ++ "</sup>".toList
      else []) Place.text [] := by
  split
  · have hstart : Finds Place.text "<sup class=\"footnote-ref\">".toList Place.text [] := ⟨rfl, rfl⟩
    have hnumber := Finds.text (Text.bracket_not_mem_ofNat occurrence)
    have hend : Finds Place.text "</sup>".toList Place.text [] := ⟨rfl, rfl⟩
    exact (hstart.before hnumber).before hend
  · exact Finds.nil Place.text

def backLinkTag (target : Text) : Element :=
  (((Element.named "a").add "href" target).add "class" "footnote-backref").add
    "data-footnote-backref" []

theorem finds_backLink (name : Text) (number occurrence : Nat) :
    Finds Place.text (backLink name number occurrence) Place.text [] := by
  have hname := Text.quote_not_mem_escapeTarget name
  have hnumber := Text.quote_not_mem_ofNat number
  have hmark := quote_not_mem_mark occurrence
  have hraised := finds_raised occurrence
  have hlink : backLink name number occurrence =
      "<a href=\"#fnref-".toList ++ Text.escapeTarget name ++
        (if 1 < occurrence then '-' :: Text.ofNat occurrence else []) ++
        "\" class=\"footnote-backref\" data-footnote-backref data-footnote-backref-idx=\"".toList ++
        Text.ofNat number ++ (if 1 < occurrence then '-' :: Text.ofNat occurrence else []) ++
        "\" aria-label=\"Back to reference ".toList ++ Text.ofNat number ++
        (if 1 < occurrence then '-' :: Text.ofNat occurrence else []) ++ "\">↩".toList ++
        (if 1 < occurrence then
          "<sup class=\"footnote-ref\">".toList ++ Text.ofNat occurrence ++ "</sup>".toList
        else []) ++ "</a>".toList := rfl
  generalize (if 1 < occurrence then '-' :: Text.ofNat occurrence else []) = mark at hmark hlink
  generalize (if 1 < occurrence then
    "<sup class=\"footnote-ref\">".toList ++ Text.ofNat occurrence ++ "</sup>".toList
    else []) = raised at hraised hlink
  have hstart : Finds Place.text "<a href=\"#fnref-".toList
      (Place.value (Element.named "a") "href" "#fnref-") [] := ⟨rfl, rfl⟩
  have hindex : forall v, Finds (Place.value (Element.named "a") "href" v)
      "\" class=\"footnote-backref\" data-footnote-backref data-footnote-backref-idx=\"".toList
      (Place.value (backLinkTag v) "data-footnote-backref-idx" []) [] := fun _ => ⟨rfl, rfl⟩
  have hlabel : forall v w, Finds (Place.value (backLinkTag v) "data-footnote-backref-idx" w)
      "\" aria-label=\"Back to reference ".toList
      (Place.value ((backLinkTag v).add "data-footnote-backref-idx" w) "aria-label"
        "Back to reference ") [] := fun _ _ => ⟨rfl, rfl⟩
  have hend : forall v w x, Finds
      (Place.value ((backLinkTag v).add "data-footnote-backref-idx" w) "aria-label" x)
      "\">↩".toList Place.text [] := fun _ _ _ => ⟨rfl, rfl⟩
  have hclose : Finds Place.text "</a>".toList Place.text [] := ⟨rfl, rfl⟩
  have htarget := (hstart.before (Finds.value hname _ _)).before (Finds.value hmark _ _)
  have hnumbered := ((htarget.before (hindex _)).before (Finds.value hnumber _ _)).before
    (Finds.value hmark _ _)
  have hlabelled := ((hnumbered.before (hlabel _ _)).before (Finds.value hnumber _ _)).before
    (Finds.value hmark _ _)
  rw [hlink]
  exact ((hlabelled.before (hend _ _ _)).before hraised).before hclose

theorem finds_join_links (name : Text) (number : Nat) (occurrences : List Nat) :
    Finds Place.text
      (Text.join [' '] (occurrences.map fun n => backLink name number (n + 1))) Place.text [] := by
  induction occurrences with
  | nil =>
      exact Finds.nil Place.text
  | cons n rest ih =>
      have hlink := finds_backLink name number (n + 1)
      have hspace : Finds Place.text [' '] Place.text [] := ⟨rfl, rfl⟩
      cases rest with
      | nil =>
          exact hlink
      | cons m rest =>
          exact (hlink.before hspace).before ih

theorem finds_backLinks (name : Text) (number calls : Nat) :
    Finds Place.text (backLinks name number calls) Place.text [] :=
  finds_join_links name number (List.range calls)

/-!
# Code
-/

theorem finds_codeBody (info : Text) {body closing : Text}
    (hbody : Finds Place.text body Place.text []) (hclosing : Finds Place.text closing Place.text []) :
    Finds (Place.name "code")
      (Highlight.labelMarkup ((languageOf info).map Text.escapeMarkup) ++ ">".toList ++ body ++
        closing) Place.text [] := by
  refine Finds.before (Finds.before ?_ hbody) hclosing
  cases languageOf info with
  | none =>
      exact ⟨rfl, rfl⟩
  | some language =>
      have hstart : Finds (Place.name "code") " class=\"language-".toList
          (Place.value (Element.named "code") "class" "language-") [] := ⟨rfl, rfl⟩
      have hquote : forall v, Finds (Place.value (Element.named "code") "class" v) "\"".toList
          (Place.gap ((Element.named "code").add "class" v)) [] := fun _ => ⟨rfl, rfl⟩
      have hend : forall v, Finds (Place.gap ((Element.named "code").add "class" v)) ">".toList
          Place.text [] := fun _ => ⟨rfl, rfl⟩
      have hlanguage := Finds.value (s := "language-".toList)
        (Text.quote_not_mem_escapeMarkup language) (Element.named "code") "class"
      exact ((hstart.before hlanguage).before (hquote _)).before (hend _)

theorem finds_plainCode (info literal : Text) :
    Finds Place.text (plainCode info literal) Place.text [] := by
  have hliteral := Finds.text (Text.bracket_not_mem_escapeMarkup literal)
  by_cases hmath : info = "math".toList
  · have hstart : Finds Place.text
        "<pre><code class=\"language-math\" data-math-style=\"display\">".toList Place.text [] :=
      ⟨rfl, rfl⟩
    have hend : Finds Place.text "</code></pre>\n".toList Place.text [] := ⟨rfl, rfl⟩
    rw [hmath]
    exact (hstart.before hliteral).before hend
  · have hopening : Finds Place.text Highlight.CodeBlock.opening (Place.name "code") [] := ⟨rfl, rfl⟩
    have hending : Finds Place.text Highlight.CodeBlock.ending Place.text [] := ⟨rfl, rfl⟩
    have hline : Finds Place.text ['\n'] Place.text [] := ⟨rfl, rfl⟩
    have hinside : (writtenBlock info literal).inside =
        Highlight.labelMarkup ((languageOf info).map Text.escapeMarkup) ++ ">".toList ++
          Text.escapeMarkup literal ++ Highlight.CodeBlock.ending := by
      rw [List.append_assoc (Highlight.labelMarkup _)]
      rfl
    rw [plainCode_eq hmath, hinside]
    exact (hopening.before (finds_codeBody info hliteral hending)).before hline

theorem finds_highlightedCode [Highlighter] (hspans : Highlighter.WritesSpans)
    (info literal : Text) :
    Finds Place.text (highlightedCode info literal) Place.text [] := by
  have hstart : Finds Place.text "<div class=\"codehilite\"><pre><code".toList
      (Place.name "code") [] := ⟨rfl, rfl⟩
  have hend : Finds Place.text "</code></pre></div>".toList Place.text [] := ⟨rfl, rfl⟩
  have hline : Finds Place.text ['\n'] Place.text [] := ⟨rfl, rfl⟩
  have hmarkup := Highlight.spanMarkup_markup hspans ((languageOf info).map Text.escapeMarkup) literal
  have hcode := (hstart.before (finds_codeBody info hmarkup.finds hend)).before hline
  simp only [← List.append_assoc] at hcode
  exact hcode

theorem finds_styledCode [Highlighter] (hspans : Highlighter.WritesSpans) (info literal : Text) :
    Finds Place.text (styledCode info literal) Place.text [] := by
  unfold styledCode
  split
  · exact finds_plainCode info literal
  · exact finds_highlightedCode hspans info literal

end Markdown
end Folio
