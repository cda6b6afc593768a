import Folio.Proofs.Markdown.CallFree
import Folio.Proofs.Toc.Expansion
import Folio.Proofs.Toc.Rendering
import Folio.Proofs.Toc.Table

/-!
# Targets of a table of contents

A link of the table leads to the elements of the page that have its anchor.  The heading
that it was made from is one of them, and no other heading is: anchors of headings are
distinct, and the table itself has none.  But notes and their calls get anchors from
their names alone, and these may be those of headings.
-/

namespace Folio

open Markup (Element Place Finds)

namespace Toc

/-!
# Elements of a table
-/

theorem finds_link {heading : Heading} (h : heading.IsLinkable) :
    Finds Place.text (link heading) Place.text [] := by
  have hstart : Finds Place.text "<a href=\"#".toList
      (Place.value (Element.named "a") "href" "#") [] := ⟨rfl, rfl⟩
  have hclose : forall v, Finds (Place.value (Element.named "a") "href" v) "\">".toList
      Place.text [] := fun _ => ⟨rfl, rfl⟩
  have hend : Finds Place.text "</a>".toList Place.text [] := ⟨rfl, rfl⟩
  have htag := (hstart.before (Finds.value h.id _ _)).before (hclose _)
  exact (htag.before (Finds.text h.name)).before hend

theorem composes_finds : Composes fun s => Finds Place.text s Place.text [] where
  nil := Finds.nil Place.text
  append := Finds.before
  tag := by
    simp only [tableTags, List.forall_mem_cons]
    exact ⟨⟨rfl, rfl⟩, ⟨rfl, rfl⟩, ⟨rfl, rfl⟩, ⟨rfl, rfl⟩, fun _ hmem => nomatch hmem⟩

theorem finds_block {entries : List Entry}
    (h : forall heading, heading ∈ preorderAll entries -> heading.IsLinkable) :
    Finds Place.text (block entries) Place.text [] := by
  have hstart : Finds Place.text "<div class=\"toc\">".toList Place.text [] := ⟨rfl, rfl⟩
  have hend : Finds Place.text "</div>".toList Place.text [] := ⟨rfl, rfl⟩
  have htable := composes_finds.render fun heading hheading => finds_link (h heading hheading)
  exact (hstart.before htable).before hend

/-!
# Elements of an expanded page
-/

theorem finds_markerParagraph (marker : Text) :
    Finds Place.text (markerParagraph marker) Place.text [] := by
  have hstart : Finds Place.text "<p>".toList Place.text [] := ⟨rfl, rfl⟩
  have hmarker := Finds.text (Text.bracket_not_mem_escapeName marker)
  have hend : Finds Place.text "</p>".toList Place.text [] := ⟨rfl, rfl⟩
  exact (hstart.before hmarker).before hend

theorem finds_expandMarker_append {marker w s : Text} {entries : List Entry}
    {ids others : List Text} (hw : Text.Avoids (markerParagraph marker) w)
    (hids : Finds Place.text w Place.text ids)
    (hrest : Finds Place.text (expandMarker marker entries s) Place.text others) :
    Finds Place.text (expandMarker marker entries (w ++ s)) Place.text (ids ++ others) := by
  rw [expandMarker, hw.replaceAll_append]
  exact hids.append hrest

theorem finds_expandMarker_paragraph {marker ending s : Text} {content : List Markdown.Inline}
    {entries : List Entry} {ids others : List Text}
    (hmarker : isMarker marker (content, ending) = true)
    (hids : Finds Place.text (Markdown.paragraphMarkup content ending) Place.text ids)
    (hblock : Finds Place.text (block entries) Place.text [])
    (hrest : Finds Place.text (expandMarker marker entries s) Place.text others) :
    Finds Place.text (expandMarker marker entries (Markdown.paragraphMarkup content ending ++ s))
      Place.text (ids ++ others) := by
  have hparagraph := paragraphMarkup_of_isMarker hmarker
  rw [hparagraph] at hids
  rw [hids.unique (finds_markerParagraph marker), hparagraph, expandMarker,
    Text.replaceAll_occurrence _ (markerParagraph_ne_nil marker)]
  exact hblock.append hrest

theorem finds_expandMarker {marker : Text} {entries : List Entry} {code : Text -> Text -> Text}
    (havoids : forall info literal, Text.Avoids (markerParagraph marker) (code info literal))
    (hcode : forall info literal, Finds Place.text (code info literal) Place.text [])
    (hblock : Finds Place.text (block entries) Place.text []) {parts : List Markdown.Part}
    {ids : List Text} (h : Markdown.Carries parts ids) (htame : Markdown.AllTame parts)
    (atStart : Bool) :
    Finds Place.text (expandMarker marker entries (Markdown.printFrom code atStart parts))
      Place.text ids := by
  have hnewline : Text.Avoids (markerParagraph marker) ['\n'] := avoids_of_isQuiet marker rfl
  have hline : Finds Place.text ['\n'] Place.text [] := ⟨rfl, rfl⟩
  induction h generalizing atStart with
  | nil =>
      rw [Markdown.printFrom, expandMarker, Text.replaceAll_nil]
      exact Finds.nil Place.text
  | cons hpart hparts ih =>
      rename_i part rest ids others
      rcases List.forall_mem_cons.mp htame with ⟨hkept, hrest⟩
      have hbehind := finds_expandMarker_append hnewline hline (ih hrest true)
      cases part with
      | markup s =>
          exact finds_expandMarker_append (avoids_of_isQuiet marker hkept) hpart (ih hrest _)
      | freshLine =>
          subst hpart
          cases atStart with
          | true =>
              exact ih hrest true
          | false =>
              exact hbehind
      | heading level anchor content =>
          exact finds_expandMarker_append (avoids_of_isQuiet marker hkept) hpart hbehind
      | paragraph content ending =>
          cases hmarker : isMarker marker (content, ending) with
          | true =>
              exact finds_expandMarker_paragraph hmarker hpart hblock hbehind
          | false =>
              have hown := avoids_paragraph hkept.1 hkept.2 hmarker
              have hall := finds_expandMarker_append hown (hpart.behind hline) (ih hrest true)
              rw [List.append_assoc] at hall
              exact hall
      | code info literal =>
          subst hpart
          exact finds_expandMarker_append (havoids info literal) (hcode info literal) (ih hrest _)

end Toc

namespace Settings

theorem mem_headings_iff {settings : Settings} (htoc : settings.has Extension.toc = true)
    (document : Markdown.Document) (heading : Toc.Heading) :
    heading ∈ Toc.preorderAll (settings.headings document) ↔
      heading ∈ Markdown.headings document ∧ settings.toc.keeps heading = true := by
  rw [headings, if_pos htoc, Toc.nest_eq_outline, Toc.preorderAll_outline, List.mem_filter]

variable [Highlighter]

theorem finds_codeMarkup (hspans : Highlighter.WritesSpans) (settings : Settings)
    (info literal : Text) :
    Finds Place.text (settings.codeMarkup info literal) Place.text [] := by
  unfold codeMarkup
  split
  · exact Markdown.finds_styledCode hspans info literal
  · exact Markdown.finds_plainCode info literal

theorem exists_finds_page (hspans : Highlighter.WritesSpans) (settings : Settings)
    (htoc : settings.has Extension.toc = true) {source : Text} (h : Markdown.HtmlFree (Markdown.read settings.dialect source)) :
    let document := Markdown.read settings.dialect source
    exists ids, Finds Place.text (settings.convert source).page Place.text ids ∧
      ids.Perm ((Markdown.headings document).map Toc.Heading.id ++ Markdown.noteIds document) := by
  intro document
  have htame := Markdown.parts_read_tame true h
  have hstyled : settings.styled (Markdown.page true document) =
      Markdown.printFrom settings.codeMarkup true (Markdown.parts true document) :=
    settings.styled_print htame
  have hpage : (settings.convert source).page =
      Toc.expandMarker settings.toc.marker (settings.headings document)
        (settings.styled (Markdown.page true document)) := by
    rw [convert, page, htoc]
    rfl
  have hlinkable : forall heading, heading ∈ Toc.preorderAll (settings.headings document) ->
      heading.IsLinkable := by
    intro heading hheading
    have hcollected := ((mem_headings_iff htoc document heading).mp hheading).1
    exact Toc.forall_isLinkable (Markdown.blocksHeadings_shows document []) heading hcollected
  rcases Markdown.parts_bears h with ⟨ids, hids, hperm⟩
  refine ⟨ids, ?_, hperm⟩
  rw [hpage, hstyled]
  exact Toc.finds_expandMarker (avoids_codeMarkup hspans settings settings.toc.marker)
    (finds_codeMarkup hspans settings) (Toc.finds_block hlinkable) hids htame true

/-- The heading of every link in the table of contents has its anchor on the page, and
nothing else has it but the notes and calls whose anchors read the same.  Without notes
every link has exactly one target. -/
theorem targets_convert (hspans : Highlighter.WritesSpans) (settings : Settings)
    (htoc : settings.has Extension.toc = true) (source : Text)
    (h : Markdown.HtmlFree (Markdown.read settings.dialect source)) :
    let document := Markdown.read settings.dialect source
    let conversion := settings.convert source
    forall heading, heading ∈ Toc.preorderAll conversion.headings ->
      Markup.targets conversion.page heading.id =
          1 + (Markdown.noteIds document).count heading.id ∧
        (settings.has Extension.extra = false ->
          Markup.targets conversion.page heading.id = 1) := by
  intro document conversion heading hheading
  rcases exists_finds_page hspans settings htoc h with ⟨ids, hids, hperm⟩
  have hmem := ((mem_headings_iff htoc document heading).mp hheading).1
  have hone : ((Markdown.headings document).map Toc.Heading.id).count heading.id = 1 :=
    List.count_eq_one_of_mem (Markdown.headings_nodup document) (List.mem_map_of_mem hmem)
  have htargets : Markup.targets conversion.page heading.id =
      1 + (Markdown.noteIds document).count heading.id := by
    rw [hids.targets, hperm.count_eq, List.count_append, hone]
  refine ⟨htargets, fun hextra => ?_⟩
  have hdialect : settings.dialect.notes = false := by
    rw [dialect, hextra]
    rfl
  have hnone : Markdown.noteIds document = [] := Markdown.noteIds_read hdialect source
  rw [htargets, hnone]
  rfl

omit [Highlighter] in
/-- A note gives its item the anchor that a heading has already. -/
theorem targets_convert_of_note_name :
    let _ : Highlighter := Highlighter.wholeCode
    let source : Text := "# fn-1\n\n```rust\nfoo\n```\n\na[^1]\n\n[^1]: b\n"
    let heading : Toc.Heading := { level := 1, id := "fn-1", name := "fn-1" }
    let plain : Settings := { default with extensions := [Extension.toc] }
    Highlighter.WritesSpans ∧ default.has Extension.toc = true ∧
      Markdown.HtmlFree (Markdown.read default.dialect source) ∧
      heading ∈ Toc.preorderAll (default.convert source).headings ∧
      Markup.targets (default.convert source).page heading.id = 2 ∧
      plain.has Extension.toc = true ∧ Markdown.HtmlFree (Markdown.read plain.dialect source) ∧
      heading ∈ Toc.preorderAll (plain.convert source).headings ∧
      Markup.targets (plain.convert source).page heading.id = 1 := by
  intro _ source heading plain
  have hspans : Highlighter.WritesSpans := Highlighter.lawful_wholeCode.spans
  have htoc : default.has Extension.toc = true := by decide
  have hplain : plain.has Extension.toc = true := by decide
  have hfree : Markdown.HtmlFree (Markdown.read default.dialect source) := by decide +kernel
  have hplainFree : Markdown.HtmlFree (Markdown.read plain.dialect source) := by decide +kernel
  have hheading : heading ∈ Toc.preorderAll (default.convert source).headings :=
    (mem_headings_iff htoc _ heading).mpr (by decide +kernel)
  have hplainHeading : heading ∈ Toc.preorderAll (plain.convert source).headings :=
    (mem_headings_iff hplain _ heading).mpr (by decide +kernel)
  have htwo := (targets_convert hspans default htoc source hfree heading hheading).1
  have hone :=
    (targets_convert hspans plain hplain source hplainFree heading hplainHeading).2 (by decide)
  have hnotes : (Markdown.noteIds (Markdown.read default.dialect source)).count heading.id = 1 := by
    decide +kernel
  rw [hnotes] at htwo
  exact ⟨hspans, htoc, hfree, hheading, htwo, hplain, hplainFree, hplainHeading, hone⟩

end Settings
end Folio
