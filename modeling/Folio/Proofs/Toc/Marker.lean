import Folio.Conversion
import Folio.Proofs.Markdown.PlainParagraph
import Folio.Proofs.Text.Replace

/-!
# The marker of a table of contents

The marker is sought in the finished page, as a paragraph of its own.  A
paragraph of the document that holds the marker alone stands on the page in the
form that the page writer gives it.  The two forms are the same unless the marker
has a double quote or the paragraph ends a note.
-/

namespace Folio
namespace Toc

/-!
# Marker paragraphs
-/

theorem markerParagraph_eq (marker : Text) :
    markerParagraph marker =
      '<' :: 'p' :: '>' :: (Text.escapeName marker ++ "</p>".toList) := rfl

theorem markerParagraph_ne_nil (marker : Text) : markerParagraph marker ≠ [] := by
  rw [markerParagraph_eq]
  exact List.cons_ne_nil _ _

theorem isQuiet_markerParagraph (marker : Text) :
    Text.isQuiet ('p' :: '>' :: (Text.escapeName marker ++ "</p>".toList)) = true := by
  have hname := Text.isQuiet_of_not_mem (Text.bracket_not_mem_escapeName marker)
  exact Text.isQuiet_append (s := ['p', '>']) rfl (Text.isQuiet_append hname rfl)

theorem separate_before_paragraph (marker l z : Text) :
    Text.Separate (markerParagraph marker) l ('<' :: 'p' :: z) := by
  apply Text.Separate.of_rests
  rintro begun rest hmarker hne hrest ⟨behind, hbehind⟩
  cases begun with
  | nil =>
      exact hne rfl
  | cons c begun =>
      have htail : 'p' :: '>' :: (Text.escapeName marker ++ "</p>".toList) = begun ++ rest := by
        rw [markerParagraph_eq] at hmarker
        injection hmarker
      have hquiet := isQuiet_markerParagraph marker
      rw [htail] at hquiet
      exact hrest (Text.eq_nil_of_isQuiet (Text.isQuiet_of_append hquiet) hbehind)

theorem eq_nil_of_occurrence {marker tail u v r : Text}
    (hquiet : Text.isQuiet ('p' :: '>' :: tail) = true)
    (hq : '<' :: 'p' :: '>' :: tail = u ++ v) (hne : v ≠ [])
    (h : markerParagraph marker <+: v ++ r) : u = [] := by
  rcases h with ⟨rest, hrest⟩
  cases u with
  | nil =>
      rfl
  | cons c u =>
      injection hq with _ hq
      rw [hq] at hquiet
      rw [markerParagraph_eq] at hrest
      exact absurd (Text.eq_nil_of_isQuiet (Text.isQuiet_of_append hquiet) hrest.symm) hne

theorem separate_behind_paragraph (marker : Text) {body : Text}
    (hquiet : Text.isQuiet ('p' :: '>' :: (body ++ "</p>".toList)) = true) (r : Text) :
    Text.Separate (markerParagraph marker) ('<' :: 'p' :: '>' :: (body ++ "</p>".toList)) r := by
  intro u v hq hne hstart
  have hu := eq_nil_of_occurrence hquiet hq hne hstart
  rw [hu, List.nil_append] at hq
  rw [← hq] at hstart ⊢
  apply List.prefix_of_prefix_length_le hstart (List.prefix_append _ _)
  rcases hstart with ⟨rest, hrest⟩
  have hclosing : "</p>".toList = '<' :: "/p>".toList := rfl
  have hcut : Text.escapeName marker ++ ('<' :: "/p>".toList ++ rest) =
      body ++ '<' :: ("/p>".toList ++ r) := by
    rw [markerParagraph_eq, hclosing] at hrest
    simpa using hrest
  rcases Text.append_eq_of_not_mem (Text.bracket_not_mem_escapeName marker) hcut with
    ⟨more, hbody, _⟩
  rw [markerParagraph_eq, hbody]
  simp only [List.length_cons, List.length_append]
  omega

theorem marker_of_start {marker ending : Text} (hending : Markdown.Ending ending)
    (h : markerParagraph marker <+:
      '<' :: 'p' :: '>' :: (Text.escapeMarkup marker ++ (ending ++ "</p>".toList))) :
    '"' ∉ marker ∧ ending = [] := by
  rcases h with ⟨rest, hrest⟩
  have hclosing : "</p>".toList = '<' :: "/p>".toList := rfl
  have hcut : Text.escapeName marker ++ '<' :: ("/p>".toList ++ rest) =
      Text.escapeMarkup marker ++ (ending ++ '<' :: "/p>".toList) := by
    rw [markerParagraph_eq, hclosing] at hrest
    simpa using hrest
  rcases Text.append_eq_of_not_mem (Text.bracket_not_mem_escapeMarkup marker) hcut.symm with
    ⟨more, hname, hmore⟩
  have hnil : more = [] := by
    have hle := Text.length_escapeName_le marker
    rw [hname, List.length_append] at hle
    exact List.length_eq_zero_iff.mp (by omega)
  rw [hnil, List.append_nil] at hname
  rw [hnil, List.nil_append] at hmore
  refine ⟨(Text.escapeMarkup_eq_escapeName_iff marker).mp hname.symm, ?_⟩
  rcases hending.eq_nil_or_space with hempty | ⟨x, hspace⟩
  · exact hempty
  · rw [hspace] at hmore
    injection hmore with hc _
    cases hc

/-!
# Expansion around a paragraph
-/

theorem expandMarker_around (marker : Text) (entries : List Entry) {body : Text}
    (hquiet : Text.isQuiet ('p' :: '>' :: (body ++ "</p>".toList)) = true) (l r : Text) :
    expandMarker marker entries (l ++ '<' :: 'p' :: '>' :: (body ++ "</p>".toList) ++ r) =
      expandMarker marker entries l ++
        expandMarker marker entries ('<' :: 'p' :: '>' :: (body ++ "</p>".toList)) ++
        expandMarker marker entries r := by
  have hne := markerParagraph_ne_nil marker
  have hbefore : Text.Separate (markerParagraph marker) l
      ('<' :: 'p' :: '>' :: (body ++ "</p>".toList) ++ r) :=
    separate_before_paragraph marker l _
  have hbehind := separate_behind_paragraph marker hquiet r
  simp only [expandMarker]
  rw [List.append_assoc, Text.replaceAll_append hne _ hbefore, Text.replaceAll_append hne _ hbehind,
    List.append_assoc]

theorem expandMarker_paragraph (entries : List Entry) {marker ending : Text}
    {content : List Markdown.Inline} (hcontent : Markdown.Inline.literal? content = some marker)
    (hending : Markdown.Ending ending) :
    expandMarker marker entries (Markdown.paragraphMarkup content ending) =
      if '"' ∈ marker ∨ ending ≠ [] then
        Markdown.paragraphMarkup content ending
      else
        block entries := by
  have hquiet := Markdown.isQuiet_paragraph marker hending
  rw [Markdown.paragraphMarkup_of_literal hcontent, expandMarker]
  by_cases hkept : '"' ∈ marker ∨ ending ≠ []
  · rw [if_pos hkept]
    apply Text.replaceAll_eq_self
    intro u v hq hne hstart
    have hlonger : markerParagraph marker <+: v ++ [] := by
      simpa using hstart
    have hu := eq_nil_of_occurrence hquiet hq hne hlonger
    rw [hu, List.nil_append] at hq
    rw [← hq] at hstart
    rcases marker_of_start hending hstart with ⟨hquote, hempty⟩
    rcases hkept with hmem | hnonempty
    · exact hquote hmem
    · exact hnonempty hempty
  · rcases not_or.mp hkept with ⟨hquote, hnot⟩
    have hempty : ending = [] := not_not.mp hnot
    have hmarker := (Text.escapeMarkup_eq_escapeName_iff marker).mpr hquote
    have hsame : '<' :: 'p' :: '>' :: (Text.escapeMarkup marker ++ (ending ++ "</p>".toList)) =
        markerParagraph marker ++ [] := by
      rw [hmarker, hempty, markerParagraph_eq, List.append_nil, List.nil_append]
    rw [if_neg hkept, hsame, Text.replaceAll_occurrence _ (markerParagraph_ne_nil marker),
      Text.replaceAll_nil, List.append_nil]

theorem expandMarker_at_marker (entries : List Entry) {marker ending : Text}
    {content : List Markdown.Inline} (hcontent : Markdown.Inline.literal? content = some marker)
    (hending : Markdown.Ending ending) (l r : Text) :
    expandMarker marker entries (l ++ Markdown.paragraphMarkup content ending ++ r) =
      expandMarker marker entries l ++
        (if '"' ∈ marker ∨ ending ≠ [] then
          Markdown.paragraphMarkup content ending
        else
          block entries) ++
        expandMarker marker entries r := by
  have hquiet := Markdown.isQuiet_paragraph marker hending
  rw [← List.append_assoc] at hquiet
  have haround := expandMarker_around marker entries hquiet l r
  rw [List.append_assoc (Text.escapeMarkup marker),
    ← Markdown.paragraphMarkup_of_literal hcontent] at haround
  rw [haround, expandMarker_paragraph entries hcontent hending]

end Toc

/-!
# Markers in documents
-/

namespace Settings

theorem styled_around_paragraph [Highlighter] (settings : Settings) (lead behind : List Markdown.Part)
    {ending : Text} (h : Markdown.Ending ending) :
    exists left right, forall s,
      settings.styled (Markdown.print Markdown.plainCode
          (lead ++ Markdown.Part.paragraph [Markdown.Inline.text s] ending :: behind)) =
        left ++ Markdown.paragraphMarkup [Markdown.Inline.text s] ending ++ right := by
  by_cases hcode : settings.has Extension.codeHighlighting = true
  · simp only [styled, hcode, if_true]
    exact Markdown.page_around_paragraph Markdown.plainCode lead behind h
  · refine ⟨Markdown.print Markdown.plainCode lead,
      '\n' :: Markdown.printFrom Markdown.plainCode true behind, ?_⟩
    intro s
    rw [styled, if_neg hcode, Markdown.print_paragraph, List.append_assoc]

/-- A paragraph that holds the marker alone has its place on the page, whatever
text might stand in it.  The table is there instead, unless the marker has a double
quote or the paragraph ends a note: then the paragraph stays. -/
theorem page_at_marker [Highlighter] (settings : Settings) (htoc : settings.has Extension.toc = true)
    (document : Markdown.Document) {before after : List Markdown.Paragraph}
    {paragraph : Markdown.Paragraph}
    (hshown : Markdown.paragraphs document = before ++ paragraph :: after)
    (hmarker : Markdown.Inline.literal? paragraph.content = some settings.toc.marker) :
    exists lead ending behind left right,
      let expanded := fun entries =>
        Toc.expandMarker settings.toc.marker entries left ++
          (if '"' ∈ settings.toc.marker ∨ paragraph.endsNote = true then
            Markdown.paragraphMarkup paragraph.content ending
          else
            Toc.block entries) ++
          Toc.expandMarker settings.toc.marker entries right
      Markdown.parts true document =
          lead ++ Markdown.Part.paragraph paragraph.content ending :: behind ∧
        (Markdown.paragraphsOf lead).length = before.length ∧
        (forall s,
          settings.styled (Markdown.print Markdown.plainCode
              (lead ++ Markdown.Part.paragraph [Markdown.Inline.text s] ending :: behind)) =
            left ++ Markdown.paragraphMarkup [Markdown.Inline.text s] ending ++ right) ∧
        (forall entries,
          Toc.expandMarker settings.toc.marker entries
            (settings.styled (Markdown.page true document)) = expanded entries) ∧
        settings.page document = expanded (settings.headings document) := by
  rcases Markdown.exists_part_of_paragraph true hshown with
    ⟨lead, ending, behind, hparts, hlead, hshows⟩
  have hending : Markdown.Ending ending := hshows.isEnding
  rcases styled_around_paragraph settings lead behind hending with ⟨left, right, hstyled⟩
  have hcontent : Markdown.paragraphMarkup paragraph.content ending =
      Markdown.paragraphMarkup [Markdown.Inline.text settings.toc.marker] ending := by
    rw [Markdown.paragraphMarkup_of_literal hmarker, Markdown.paragraphMarkup_text]
  have hpage : settings.styled (Markdown.page true document) =
      left ++ Markdown.paragraphMarkup paragraph.content ending ++ right := by
    rw [hcontent, ← hstyled settings.toc.marker, Markdown.page, hparts,
      Markdown.print_paragraph, Markdown.print_paragraph, hcontent]
  have hexpanded : forall entries,
      Toc.expandMarker settings.toc.marker entries (settings.styled (Markdown.page true document)) =
        Toc.expandMarker settings.toc.marker entries left ++
          (if '"' ∈ settings.toc.marker ∨ paragraph.endsNote = true then
            Markdown.paragraphMarkup paragraph.content ending
          else
            Toc.block entries) ++
          Toc.expandMarker settings.toc.marker entries right := by
    intro entries
    rw [hpage, Toc.expandMarker_at_marker entries hmarker hending]
    simp only [hshows.ending_ne_nil_iff]
  have hconverted : settings.page document =
      Toc.expandMarker settings.toc.marker (settings.headings document)
        (settings.styled (Markdown.page true document)) := by
    rw [page, htoc]
    rfl
  exact ⟨lead, ending, behind, left, right, hparts, hlead, hstyled, hexpanded,
    hconverted.trans (hexpanded _)⟩

theorem page_at_marker_in_quote :
    let _ : Highlighter := Highlighter.wholeCode
    let content : List Markdown.Inline := [Markdown.Inline.text "[TOC]"]
    let document : Markdown.Document :=
      [Markdown.Block.heading 1 [Markdown.Inline.text "A"],
        Markdown.Block.quote [Markdown.Block.paragraph content]]
    default.has Extension.toc = true ∧
      Markdown.paragraphs document = [{ content := content, endsNote := false }] ∧
      Markdown.Inline.literal? content = some default.toc.marker ∧
      exists left right, default.page document =
        Toc.expandMarker "[TOC]" (default.headings document) left ++
          Toc.block (default.headings document) ++
          Toc.expandMarker "[TOC]" (default.headings document) right := by
  intro _ content document
  have htoc : default.has Extension.toc = true := by decide
  have hshown : Markdown.paragraphs document =
      [] ++ { content := content, endsNote := false } :: [] := rfl
  have hmarker : Markdown.Inline.literal? content = some default.toc.marker := by decide
  have hplain : ¬ ('"' ∈ default.toc.marker ∨ false = true) := by decide
  rcases page_at_marker default htoc document hshown hmarker with
    ⟨_, _, _, left, right, _, _, _, _, hpage⟩
  dsimp only at hpage
  rw [if_neg hplain] at hpage
  exact ⟨htoc, hshown, hmarker, left, right, hpage⟩

example :
    let _ : Highlighter := Highlighter.wholeCode
    let settings : Settings :=
      { default with toc := { Toc.Options.default with marker := "\"TOC\"" } }
    settings.fault? = none ∧
      (settings.convert "\"TOC\"\n").page = "<p>&quot;TOC&quot;</p>\n".toList := by
  decide +kernel

end Settings
end Folio
