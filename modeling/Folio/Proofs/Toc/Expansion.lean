import Folio.Proofs.Highlight.Page
import Folio.Proofs.Highlight.Spans
import Folio.Proofs.Toc.Marker

/-!
# Expansion of the marker

The table of contents stands where the finished page had the marker as a paragraph
of its own.  In a document without raw markup nothing but a paragraph of plain text
is printed in that form: other text has tags, and the tags of code, of tables and
of links are no tags of paragraphs.  All of the page between those paragraphs is
kept.
-/

namespace Folio
namespace Markdown

namespace Inline

theorem exists_tag_of_markup {inline : Inline} (hfree : isHtmlFree inline = true)
    (htext : forall content, inline ≠ text content) (hbreak : inline ≠ softBreak) :
    exists c s, markup inline = '<' :: c :: s ∧ c ≠ '/' := by
  cases inline with
  | text content =>
      exact absurd rfl (htext content)
  | html s =>
      cases hfree
  | softBreak =>
      exact absurd rfl hbreak
  | code _ | hardBreak | emphasis _ | strong _ | link _ _ _ | image _ _ _ | noteCall _ _ _ =>
      exact ⟨_, _, rfl, by decide⟩

theorem exists_tag_of_literal_eq_none {content : List Inline} (hfree : allHtmlFree content = true)
    (h : literal? content = none) :
    exists a c b, markupAll content = a ++ '<' :: c :: b ∧ '<' ∉ a ∧ c ≠ '/' := by
  induction content using literal?.induct with
  | case1 =>
      cases h
  | case2 content rest ih =>
      rw [allHtmlFree, Bool.and_eq_true] at hfree
      rw [literal?, Option.map_eq_none_iff] at h
      rcases ih hfree.2 h with ⟨a, c, b, hmarkup, ha, hc⟩
      refine ⟨Text.escapeMarkup content ++ a, c, b, ?_, ?_, hc⟩
      · rw [markupAll_text, hmarkup, List.append_assoc]
      · simp [ha, Text.bracket_not_mem_escapeMarkup]
  | case3 rest ih =>
      rw [allHtmlFree, Bool.and_eq_true] at hfree
      rw [literal?, Option.map_eq_none_iff] at h
      rcases ih hfree.2 h with ⟨a, c, b, hmarkup, ha, hc⟩
      refine ⟨'\n' :: a, c, b, ?_, ?_, hc⟩
      · rw [markupAll_softBreak, hmarkup, List.cons_append]
      · simp [ha]
  | case4 content hnil htext hbreak =>
      cases content with
      | nil =>
          exact absurd rfl hnil
      | cons inline rest =>
          rw [allHtmlFree, Bool.and_eq_true] at hfree
          rcases exists_tag_of_markup hfree.1 (fun s heq => htext s rest (by rw [heq]))
            (fun heq => hbreak rest (by rw [heq])) with ⟨c, s, hmarkup, hc⟩
          refine ⟨[], c, s ++ markupAll rest, ?_, List.not_mem_nil, hc⟩
          rw [markupAll, hmarkup]
          rfl

end Inline

end Markdown

namespace Toc

/-!
# Paragraphs that give way
-/

/-- Whether a printed paragraph gives way to the table: it is plain text, and with
what stands behind it, which may be a space where a note ends, it reads as the
marker.  A marker with a double quote is never found. -/
def isMarker (marker : Text) (printed : List Markdown.Inline × Text) : Bool :=
  match Markdown.Inline.literal? printed.1 with
  | some s =>
      (printed.2 = [] || printed.2 = [' ']) && '"' ∉ marker && marker = s ++ printed.2
  | none => false

theorem isMarker_iff {marker ending : Text} {content : List Markdown.Inline} :
    isMarker marker (content, ending) = true ↔
      exists s, Markdown.Inline.literal? content = some s ∧ (ending = [] ∨ ending = [' ']) ∧
        '"' ∉ marker ∧ marker = s ++ ending := by
  unfold isMarker
  cases Markdown.Inline.literal? content with
  | none =>
      simp
  | some s =>
      simp [and_assoc]

theorem escapeMarkup_ending {ending : Text} (h : ending = [] ∨ ending = [' ']) (s : Text) :
    Text.escapeMarkup (s ++ ending) = Text.escapeMarkup s ++ ending := by
  rw [Text.escapeMarkup_append]
  rcases h with rfl | rfl
  · rfl
  · rfl

theorem paragraphMarkup_of_isMarker {marker ending : Text} {content : List Markdown.Inline}
    (h : isMarker marker (content, ending) = true) :
    Markdown.paragraphMarkup content ending = markerParagraph marker := by
  rcases isMarker_iff.mp h with ⟨s, hliteral, hending, hquote, hmarker⟩
  have hname := (Text.escapeMarkup_eq_escapeName_iff marker).mpr hquote
  rw [Markdown.paragraphMarkup_of_literal hliteral, markerParagraph_eq, ← hname, hmarker,
    escapeMarkup_ending hending, List.append_assoc]

theorem closing_of_marker {marker a b t : Text} {c : Char} (ha : '<' ∉ a)
    (h : markerParagraph marker <+: '<' :: 'p' :: '>' :: (a ++ '<' :: c :: b) ++ t) :
    Text.escapeName marker = a ∧ c = '/' := by
  rcases h with ⟨rest, hrest⟩
  have hclosing : "</p>".toList = '<' :: '/' :: "p>".toList := rfl
  have hcut : Text.escapeName marker ++ '<' :: '/' :: ("p>".toList ++ rest) =
      a ++ '<' :: c :: (b ++ t) := by
    rw [markerParagraph_eq, hclosing] at hrest
    simpa using hrest
  rcases Text.cut_eq_of_not_mem (Text.bracket_not_mem_escapeName marker) ha hcut with
    ⟨hname, htail⟩
  injection htail with hc _
  exact ⟨hname, hc.symm⟩

theorem isMarker_of_escapeName {marker s ending : Text} {content : List Markdown.Inline}
    (hliteral : Markdown.Inline.literal? content = some s) (hending : ending = [] ∨ ending = [' '])
    (h : Text.escapeName marker = Text.escapeMarkup s ++ ending) :
    isMarker marker (content, ending) = true := by
  have hquote : '"' ∉ marker := by
    intro hmem
    have hname := (Text.quote_mem_escapeName_iff marker).mpr hmem
    rw [h, ← escapeMarkup_ending hending] at hname
    exact Text.quote_not_mem_escapeMarkup _ hname
  refine isMarker_iff.mpr ⟨s, hliteral, hending, hquote, ?_⟩
  apply Text.escapeMarkup_injective
  rw [escapeMarkup_ending hending, ← h]
  exact (Text.escapeMarkup_eq_escapeName_iff marker).mpr hquote

theorem isMarker_of_begins {marker ending t : Text} {content : List Markdown.Inline}
    (hcontent : Markdown.Inline.allHtmlFree content = true) (hending : Markdown.Ending ending)
    (h : markerParagraph marker <+: Markdown.paragraphMarkup content ending ++ t) :
    isMarker marker (content, ending) = true := by
  have hclosing : "</p>".toList = '<' :: '/' :: "p>".toList := rfl
  cases hliteral : Markdown.Inline.literal? content with
  | none =>
      rcases Markdown.Inline.exists_tag_of_literal_eq_none hcontent hliteral with
        ⟨a, c, b, hmarkup, ha, hc⟩
      have hparagraph : Markdown.paragraphMarkup content ending =
          '<' :: 'p' :: '>' :: (a ++ '<' :: c :: (b ++ ending ++ "</p>".toList)) := by
        have hopening : "<p>".toList = ['<', 'p', '>'] := rfl
        rw [Markdown.paragraphMarkup, hmarkup, hopening]
        simp only [List.append_assoc, List.cons_append, List.nil_append]
      rw [hparagraph] at h
      exact absurd (closing_of_marker ha h).2 hc
  | some s =>
      have hs := Text.bracket_not_mem_escapeMarkup s
      have hspace : '<' ∉ Text.escapeMarkup s ++ [' '] := by
        simp [hs]
      rw [Markdown.paragraphMarkup_of_literal hliteral, hclosing] at h
      cases hending with
      | none =>
          have hname := (closing_of_marker hs h).1
          apply isMarker_of_escapeName hliteral (Or.inl rfl)
          rw [hname, List.append_nil]
      | space =>
          rw [← List.append_assoc] at h
          exact isMarker_of_escapeName hliteral (Or.inr rfl) (closing_of_marker hspace h).1
      | links hx =>
          rename_i x
          have hlinks : Text.escapeMarkup s ++
              (" <a href=".toList ++ '"' :: '#' :: x ++ '<' :: '/' :: "p>".toList) =
                (Text.escapeMarkup s ++ [' ']) ++
                  '<' :: 'a' :: (" href=".toList ++ '"' :: '#' :: x ++ '<' :: '/' :: "p>".toList) := by
            rw [List.append_assoc (Text.escapeMarkup s)]
            rfl
          rw [hlinks] at h
          cases (closing_of_marker hspace h).2

theorem avoids_of_isQuiet (marker : Text) {s : Text} (h : Text.isQuiet s = true) :
    Text.Avoids (markerParagraph marker) s := by
  rw [markerParagraph_eq]
  exact Text.Avoids.of_isQuiet _ h

theorem avoids_paragraph {marker ending : Text} {content : List Markdown.Inline}
    (hcontent : Markdown.Inline.allHtmlFree content = true) (hending : Markdown.Ending ending)
    (h : isMarker marker (content, ending) = false) :
    Text.Avoids (markerParagraph marker) (Markdown.paragraphMarkup content ending ++ ['\n']) := by
  have hquiet := Markdown.isQuiet_paragraphMarkup hcontent hending
  have hline := Markdown.paragraphMarkup_line content ending
  rw [hline]
  apply Text.Avoids.cons
  · intro t hprefix
    have hlong : markerParagraph marker <+:
        Markdown.paragraphMarkup content ending ++ ('\n' :: t) := by
      rw [← List.cons_append, ← hline, List.append_assoc] at hprefix
      exact hprefix
    rw [isMarker_of_begins hcontent hending hlong] at h
    cases h
  · exact avoids_of_isQuiet marker hquiet

/-!
# Code
-/

theorem avoids_code (marker : Text) {attributes body closing : Text}
    (hattributes : Text.isQuiet attributes = true) (hbody : Text.isQuiet body = true)
    (hclosing : Text.isQuiet closing = true) :
    Text.Avoids (markerParagraph marker)
      ('<' :: ("pre><code".toList ++ attributes ++ ['>'] ++ body ++ closing)) := by
  have hquiet : Text.isQuiet ("pre><code".toList ++ attributes ++ ['>'] ++ body ++ closing) =
      true := by
    apply Text.isQuiet_append _ hclosing
    refine Text.isQuiet_append ?_ hbody
    refine Text.isQuiet_append ?_ rfl
    exact Text.isQuiet_append rfl hattributes
  rw [markerParagraph_eq]
  exact Text.Avoids.of_other_tag (by decide) _ hquiet

theorem isQuiet_labelMarkup (info : Text) :
    Text.isQuiet (Highlight.labelMarkup ((Markdown.languageOf info).map Text.escapeMarkup)) =
      true := by
  apply Highlight.isQuiet_labelMarkup
  intro written hwritten
  rcases Option.map_eq_some_iff.mp hwritten with ⟨language, _, hescaped⟩
  rw [← hescaped]
  exact Text.isQuiet_escapeMarkup language

theorem avoids_plainCode (marker info literal : Text) :
    Text.Avoids (markerParagraph marker) (Markdown.plainCode info literal) := by
  have hliteral := Text.isQuiet_escapeMarkup literal
  by_cases hmath : info = "math".toList
  · have hattributes : Text.isQuiet
        " class=\"language-math\" data-math-style=\"display\"".toList = true := by decide
    have hclosing : Text.isQuiet "</code></pre>\n".toList = true := rfl
    rw [hmath]
    exact avoids_code marker hattributes hliteral hclosing
  · have hcode : Markdown.plainCode info literal =
        '<' :: ("pre><code".toList ++
          Highlight.labelMarkup ((Markdown.languageOf info).map Text.escapeMarkup) ++ ['>'] ++
          Text.escapeMarkup literal ++ "</code></pre>\n".toList) := by
      have hending : "</code></pre>\n".toList = Highlight.CodeBlock.ending ++ ['\n'] := rfl
      have hopening : Highlight.CodeBlock.opening = '<' :: "pre><code".toList := rfl
      rw [Markdown.plainCode_eq hmath, Highlight.CodeBlock.inside, hending, hopening]
      simp only [List.append_assoc, List.cons_append, List.nil_append]
      rfl
    rw [hcode]
    exact avoids_code marker (isQuiet_labelMarkup info) hliteral rfl

theorem avoids_highlightedCode [Highlighter] (hspans : Highlighter.WritesSpans)
    (marker info literal : Text) :
    Text.Avoids (markerParagraph marker) (Markdown.highlightedCode info literal) := by
  have hlabel := isQuiet_labelMarkup info
  have hcode : Markdown.highlightedCode info literal =
      Highlight.block ((Markdown.languageOf info).map Text.escapeMarkup) literal ++ ['\n'] := rfl
  generalize (Markdown.languageOf info).map Text.escapeMarkup = label at hlabel hcode
  have hblock : Highlight.block label literal =
      "<div class=\"codehilite\"><pre><code".toList ++ Highlight.labelMarkup label ++ ['>'] ++
        Highlight.markup (Highlight.languageOf label) literal ++ "</code></pre></div>".toList := rfl
  have hopening : "<div class=\"codehilite\"><pre><code".toList =
      "<div class=\"codehilite\">".toList ++ '<' :: "pre><code".toList := by decide
  have hclosing : "</code></pre></div>\n".toList = "</code></pre></div>".toList ++ ['\n'] := rfl
  have hinside : Highlight.block label literal ++ ['\n'] =
      "<div class=\"codehilite\">".toList ++
        '<' :: ("pre><code".toList ++ Highlight.labelMarkup label ++ ['>'] ++
          Highlight.markup (Highlight.languageOf label) literal ++
          "</code></pre></div>\n".toList) := by
    rw [hblock, hopening, hclosing]
    simp only [List.append_assoc, List.cons_append, List.nil_append]
  rw [hcode, hinside]
  apply Text.Avoids.append
  · exact avoids_of_isQuiet marker rfl
  · have hmarkup := Highlight.spanMarkup_markup hspans label literal
    exact avoids_code marker hlabel hmarkup.isQuiet rfl

theorem avoids_styledCode [Highlighter] (hspans : Highlighter.WritesSpans)
    (marker info literal : Text) :
    Text.Avoids (markerParagraph marker) (Markdown.styledCode info literal) := by
  unfold Markdown.styledCode
  split
  · exact avoids_plainCode marker info literal
  · exact avoids_highlightedCode hspans marker info literal

/-!
# Places of the table
-/

/-- A printed paragraph that gives way, and the page between it and the next one. -/
structure Place where
  paragraph : List Markdown.Inline × Text
  behind : Text

namespace Place

def markup (place : Place) : Text :=
  Markdown.paragraphMarkup place.paragraph.1 place.paragraph.2 ++ place.behind

def expanded (entries : List Entry) (place : Place) : Text :=
  block entries ++ place.behind

end Place

/-- Whether a text consists of `lead` and the places, and its expansion of the same
with the table in every place. -/
structure Splits (marker s lead : Text) (places : List Place) : Prop where
  source : s = lead ++ places.flatMap Place.markup
  result : forall entries,
    expandMarker marker entries s = lead ++ places.flatMap (Place.expanded entries)

namespace Splits

variable {marker s lead : Text} {places : List Place}

theorem nil (marker : Text) : Splits marker [] [] [] where
  source := rfl
  result := fun _ => Text.replaceAll_nil _ _

theorem prepend {w : Text} (hw : Text.Avoids (markerParagraph marker) w)
    (h : Splits marker s lead places) : Splits marker (w ++ s) (w ++ lead) places where
  source := by
    rw [List.append_assoc, ← h.source]
  result := by
    intro entries
    rw [List.append_assoc, ← h.result entries]
    exact hw.replaceAll_append (block entries) s

theorem mark {content : List Markdown.Inline} {ending : Text}
    (hmarker : isMarker marker (content, ending) = true) (h : Splits marker s lead places) :
    Splits marker (Markdown.paragraphMarkup content ending ++ s) []
      ({ paragraph := (content, ending), behind := lead } :: places) where
  source := by
    rw [List.flatMap_cons, Place.markup, List.nil_append, List.append_assoc, ← h.source]
  result := by
    intro entries
    rw [paragraphMarkup_of_isMarker hmarker, expandMarker,
      Text.replaceAll_occurrence _ (markerParagraph_ne_nil marker), List.flatMap_cons,
      Place.expanded, List.nil_append, List.append_assoc, ← h.result entries]
    rfl

end Splits

theorem exists_places {marker : Text} {code : Text -> Text -> Text}
    (hcode : forall info literal, Text.Avoids (markerParagraph marker) (code info literal))
    {parts : List Markdown.Part} (h : Markdown.AllTame parts) (atStart : Bool) :
    exists lead places,
      Splits marker (Markdown.printFrom code atStart parts) lead places ∧
        places.map Place.paragraph =
          (Markdown.paragraphsOf parts).filter (isMarker marker) := by
  have hnewline : Text.Avoids (markerParagraph marker) ['\n'] := avoids_of_isQuiet marker rfl
  induction parts generalizing atStart with
  | nil =>
      exact ⟨[], [], Splits.nil marker, rfl⟩
  | cons part rest ih =>
      rcases List.forall_mem_cons.mp h with ⟨hpart, hrest⟩
      cases part with
      | markup s =>
          rcases ih hrest (Markdown.endsLine atStart s) with ⟨lead, places, hsplits, hplaces⟩
          exact ⟨s ++ lead, places, hsplits.prepend (avoids_of_isQuiet marker hpart), hplaces⟩
      | freshLine =>
          rcases ih hrest true with ⟨lead, places, hsplits, hplaces⟩
          cases atStart with
          | true =>
              exact ⟨lead, places, hsplits, hplaces⟩
          | false =>
              exact ⟨'\n' :: lead, places, hsplits.prepend hnewline, hplaces⟩
      | heading level anchor content =>
          rcases ih hrest true with ⟨lead, places, hsplits, hplaces⟩
          have hline := hsplits.prepend hnewline
          exact ⟨_, places, hline.prepend (avoids_of_isQuiet marker hpart), hplaces⟩
      | paragraph content ending =>
          rcases ih hrest true with ⟨lead, places, hsplits, hplaces⟩
          have hparagraphs : Markdown.paragraphsOf (Markdown.Part.paragraph content ending :: rest) =
              (content, ending) :: Markdown.paragraphsOf rest := rfl
          rw [hparagraphs]
          cases hmarker : isMarker marker (content, ending) with
          | true =>
              have hline := hsplits.prepend hnewline
              refine ⟨[], _, hline.mark hmarker, ?_⟩
              rw [List.filter_cons_of_pos hmarker, List.map_cons, hplaces]
          | false =>
              have hkept := hsplits.prepend (avoids_paragraph hpart.1 hpart.2 hmarker)
              rw [List.append_assoc, List.append_assoc] at hkept
              refine ⟨_, places, hkept, ?_⟩
              rw [List.filter_cons_of_neg (by simp [hmarker]), hplaces]
      | code info literal =>
          rcases ih hrest (Markdown.endsLine atStart (code info literal)) with
            ⟨lead, places, hsplits, hplaces⟩
          exact ⟨_, places, hsplits.prepend (hcode info literal), hplaces⟩

end Toc

namespace Settings

variable [Highlighter]

def codeMarkup (settings : Settings) : Text -> Text -> Text :=
  if settings.has Extension.codeHighlighting then Markdown.styledCode else Markdown.plainCode

theorem styled_print (settings : Settings) {parts : List Markdown.Part}
    (h : Markdown.AllTame parts) :
    settings.styled (Markdown.print Markdown.plainCode parts) =
      Markdown.print settings.codeMarkup parts := by
  unfold styled codeMarkup
  split
  · exact Markdown.highlight_print h
  · rfl

theorem avoids_codeMarkup (hspans : Highlighter.WritesSpans) (settings : Settings)
    (marker info literal : Text) :
    Text.Avoids (Toc.markerParagraph marker) (settings.codeMarkup info literal) := by
  unfold codeMarkup
  split
  · exact Toc.avoids_styledCode hspans marker info literal
  · exact Toc.avoids_plainCode marker info literal

/-- In a document without raw markup the table is put in the places of paragraphs
that read as the marker, and in all of them.  The page before and the page after
differ in those places alone. -/
theorem convert_expands (hspans : Highlighter.WritesSpans) (settings : Settings)
    (htoc : settings.has Extension.toc = true) (source : Text)
    (h : Markdown.HtmlFree (Markdown.read settings.dialect source)) :
    let document := Markdown.read settings.dialect source
    let printed := Markdown.paragraphsOf (Markdown.parts true document)
    exists (lead : Text) (places : List Toc.Place),
      settings.styled (Markdown.page true document) = lead ++ places.flatMap Toc.Place.markup ∧
        (settings.convert source).page =
          lead ++ places.flatMap (Toc.Place.expanded (settings.headings document)) ∧
        places.map Toc.Place.paragraph = printed.filter (Toc.isMarker settings.toc.marker) ∧
        List.Forall₂ Markdown.Shows printed (Markdown.paragraphs document) := by
  intro document printed
  have htame := Markdown.parts_read_tame true h
  rcases Toc.exists_places (avoids_codeMarkup hspans settings settings.toc.marker) htame true with
    ⟨lead, places, hsplits, hplaces⟩
  have hstyled : settings.styled (Markdown.page true document) =
      Markdown.printFrom settings.codeMarkup true (Markdown.parts true document) :=
    settings.styled_print htame
  refine ⟨lead, places, hstyled.trans hsplits.source, ?_, hplaces,
    Markdown.parts_shows true document⟩
  have hpage : (settings.convert source).page =
      Toc.expandMarker settings.toc.marker (settings.headings document)
        (settings.styled (Markdown.page true document)) := by
    rw [convert, page, htoc]
    rfl
  rw [hpage, hstyled]
  exact hsplits.result _

omit [Highlighter] in
theorem convert_expands_of_loose_item :
    let _ : Highlighter := Highlighter.wholeCode
    let source : Text := "# [TOC]\n\n```rust\nfoo\n```\n\n- `[TOC]`\n\n  [TOC]\n"
    let document := Markdown.read default.dialect source
    Highlighter.WritesSpans ∧ default.has Extension.toc = true ∧ Markdown.HtmlFree document ∧
      exists (lead : Text) (places : List Toc.Place),
        places.length = 1 ∧
          default.styled (Markdown.page true document) =
            lead ++ places.flatMap Toc.Place.markup ∧
          (default.convert source).page =
            lead ++ places.flatMap (Toc.Place.expanded (default.headings document)) := by
  intro _ source document
  have hspans : Highlighter.WritesSpans := Highlighter.lawful_wholeCode.spans
  have htoc : default.has Extension.toc = true := by decide
  have hfree : Markdown.HtmlFree document := by decide +kernel
  have hone : ((Markdown.paragraphsOf (Markdown.parts true document)).filter
      (Toc.isMarker default.toc.marker)).length = 1 := by decide +kernel
  rcases convert_expands hspans default htoc source hfree with
    ⟨lead, places, hbefore, hafter, hplaces, _⟩
  refine ⟨hspans, htoc, hfree, lead, places, ?_, hbefore, hafter⟩
  rw [← List.length_map, hplaces]
  exact hone

/-- The last paragraph of a note that has no links back is printed with a space behind
its text, and gives way to the table when the marker ends in a space. -/
example :
    let settings : Settings :=
      { default with toc := { Toc.Options.default with marker := "x " } }
    let document := Markdown.read settings.dialect "a[^1]\n\n[^1]: b\n\n    [^2]: x\n"
    (Markdown.paragraphsOf (Markdown.parts true document)).map
        (fun printed => (printed.2, Toc.isMarker settings.toc.marker printed)) =
      [([], false), ([], false), (" ".toList, true)] := by
  decide +kernel

end Settings
end Folio
