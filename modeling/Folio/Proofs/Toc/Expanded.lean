import Folio.Proofs.Text.Occurrence
import Folio.Proofs.Toc.Marker
import Folio.Proofs.Toc.Rendering

/-!
# Expanded pages

After an expansion no marker paragraph is left.  What stood between the marker paragraphs
has none, the table has none, and none begins in front of a table and ends in it: the first
tag of the table is another one than that which ends a paragraph.  So a page is expanded only
once, whatever table is at hand the second time.
-/

namespace Folio
namespace Toc

theorem block_eq (entries : List Entry) :
    block entries =
      '<' :: 'd' :: ("iv class=\"toc\">".toList ++ render entries ++ "</div>".toList) := rfl

theorem separate_before_tag (marker l z : Text) {c : Char} (hc : c ≠ '/') :
    Text.Separate (markerParagraph marker) l ('<' :: c :: z) := by
  apply Text.Separate.of_rests
  rintro begun rest hmarker hne hrest ⟨behind, htag⟩
  cases begun with
  | nil =>
      exact hne rfl
  | cons d begun =>
      cases rest with
      | nil =>
          exact hrest rfl
      | cons e rest =>
          injection htag with he htag
          have hopening : 'p' :: '>' :: Text.escapeName marker ++ '<' :: "/p>".toList =
              begun ++ '<' :: rest := by
            rw [markerParagraph_eq, he] at hmarker
            injection hmarker
          have hname : '<' ∉ 'p' :: '>' :: Text.escapeName marker := by
            simp [Text.bracket_not_mem_escapeName]
          rcases Text.append_eq_of_not_mem hname hopening with ⟨between, _, hclosing⟩
          cases between with
          | nil =>
              injection hclosing with _ hclosing
              rw [← hclosing] at htag
              injection htag with hslash _
              exact hc hslash.symm
          | cons f between =>
              injection hclosing with _ hclosing
              have hbracket : '<' ∉ "/p>".toList := by decide
              exact hbracket (by simp [hclosing])

/-- An expanded page has no marker paragraph, so that expanding it again, with whatever
table, changes nothing.  It has the table in place of every marker paragraph, and what stood
between these is kept. -/
theorem expandMarker_complete (marker : Text) {entries : List Entry}
    (h : forall heading, heading ∈ preorderAll entries -> '<' ∉ heading.id ∧ '<' ∉ heading.name)
    (page : Text) :
    let expanded := expandMarker marker entries page
    ¬ markerParagraph marker <:+: expanded ∧
      (forall others, expandMarker marker others expanded = expanded) ∧
      (forall l r, page = l ++ markerParagraph marker ++ r ->
        expanded =
          expandMarker marker entries l ++ block entries ++ expandMarker marker entries r) ∧
      exists kept,
        page = Text.join (markerParagraph marker) kept ∧
          expanded = Text.join (block entries) kept ∧
          forall part, part ∈ kept -> ¬ markerParagraph marker <:+: part := by
  intro expanded
  have hne := markerParagraph_ne_nil marker
  have hblock : Text.Avoids (markerParagraph marker) (block entries) := by
    rw [markerParagraph_eq]
    exact Text.Avoids.of_isQuiet _ (isQuiet_block h)
  have hborder : forall l r, Text.Separate (markerParagraph marker) l (block entries ++ r) := by
    intro l r
    rw [block_eq]
    exact separate_before_tag marker l _ (by decide)
  have hfree : ¬ markerParagraph marker <:+: expanded :=
    Text.not_infix_replaceAll hne hblock hborder page
  refine ⟨hfree, fun others => Text.replaceAll_of_not_infix (block others) hfree, ?_, ?_⟩
  · intro l r hpage
    have hquiet := isQuiet_markerParagraph marker
    have haround := expandMarker_around marker entries hquiet l r
    have hwhole := Text.replaceAll_occurrence (block entries) hne []
    rw [List.append_nil, Text.replaceAll_nil, List.append_nil] at hwhole
    rw [← markerParagraph_eq, ← hpage] at haround
    rw [← hwhole]
    exact haround
  · rcases Text.exists_cutAt hne page with ⟨first, rest, hcut⟩
    exact ⟨first :: rest, hcut.source, hcut.replaced (block entries), hcut.free⟩

/-- The marker may be empty, and one paragraph stand in another. -/
theorem expandMarker_complete_of_empty_marker :
    let heading : Heading := { level := 1, id := "a", name := "&lt;p&gt;\"" }
    let entries := [Entry.node heading []]
    let expanded := expandMarker [] entries "<p><p></p></p>x<p></p>"
    (forall heading, heading ∈ preorderAll entries -> '<' ∉ heading.id ∧ '<' ∉ heading.name) ∧
      expanded = "<p>".toList ++ block entries ++ "</p>x".toList ++ block entries ∧
      ¬ markerParagraph [] <:+: expanded ∧
      forall others, expandMarker [] others expanded = expanded := by
  intro heading entries expanded
  have h : forall heading, heading ∈ preorderAll entries ->
      '<' ∉ heading.id ∧ '<' ∉ heading.name := by
    have hheadings : preorderAll entries = [heading] := rfl
    rw [hheadings, List.forall_mem_singleton]
    decide
  have hcomplete := expandMarker_complete [] h "<p><p></p></p>x<p></p>"
  exact ⟨h, by decide +kernel, hcomplete.1, hcomplete.2.1⟩

end Toc
end Folio
