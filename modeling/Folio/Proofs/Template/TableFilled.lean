import Folio.Proofs.Text.Occurrence
import Folio.Proofs.Toc.Rendering
import Folio.Template

/-!
# Tables in filled templates

The table of contents is filled in last, wherever its placeholder stands by then: in the
template, in a value, or put together from pieces of both.  The placeholder consists of
letters, and the markup of a table has none of them, so that it is not left behind in the
table or at its ends.
-/

namespace Folio
namespace Template

theorem tocPlaceholder_ne_nil : tocPlaceholder ≠ [] :=
  List.cons_ne_nil _ _

theorem avoids_of_not_mem {s : Text} (h : 'T' ∉ s) : Text.Avoids tocPlaceholder s :=
  Text.Avoids.of_not_mem h "OCHERE".toList

theorem composes_avoids : Toc.Composes (Text.Avoids tocPlaceholder) where
  nil := Text.Avoids.nil tocPlaceholder
  append := Text.Avoids.append
  tag := by
    intro tag htag
    have hplain : forall tag, tag ∈ Toc.tableTags -> 'T' ∉ tag := by decide
    exact avoids_of_not_mem (hplain tag htag)

theorem avoids_link {heading : Toc.Heading} (hid : ¬ tocPlaceholder <:+: heading.id)
    (hname : ¬ tocPlaceholder <:+: heading.name) :
    Text.Avoids tocPlaceholder (Toc.link heading) := by
  have hstart : Text.Avoids tocPlaceholder "<a href=\"#".toList := avoids_of_not_mem (by decide)
  have hbetween : Text.Avoids tocPlaceholder ['>'] := avoids_of_not_mem (by decide)
  have hend : Text.Avoids tocPlaceholder "/a>".toList := avoids_of_not_mem (by decide)
  have hquote : '"' ∉ tocPlaceholder := by decide
  have hbracket : '<' ∉ tocPlaceholder := by decide
  have htarget := hstart.append (Text.Avoids.of_not_infix hquote hid)
  have hcontent := hbetween.append (Text.Avoids.of_not_infix hbracket hname)
  have hlink : Toc.link heading =
      ("<a href=\"#".toList ++ (heading.id ++ ['"'])) ++ (['>'] ++ (heading.name ++ ['<'])) ++
        "/a>".toList := by
    have htext : Toc.link heading =
        "<a href=\"#".toList ++ heading.id ++ ['"', '>'] ++ heading.name ++ '<' :: "/a>".toList := rfl
    rw [htext]
    simp only [List.append_assoc, List.cons_append, List.nil_append]
  rw [hlink]
  exact (htarget.append hcontent).append hend

/-- A template filled with a table has no placeholder of the table left, whatever stands in
the template and in the other values. -/
theorem tocPlaceholder_not_infix_fill (template content title : Text) {entries : List Toc.Entry}
    (h : forall heading, heading ∈ Toc.preorderAll entries ->
      ¬ tocPlaceholder <:+: heading.id ∧ ¬ tocPlaceholder <:+: heading.name) :
    ¬ tocPlaceholder <:+: fill template content title (Toc.render entries) := by
  have htable : Text.Avoids tocPlaceholder (Toc.render entries) := by
    apply composes_avoids.render
    intro heading hheading
    rcases h heading hheading with ⟨hid, hname⟩
    exact avoids_link hid hname
  have hborder : forall l r, Text.Separate tocPlaceholder l (Toc.render entries ++ r) := by
    intro l r
    have hopening : Toc.render entries ++ r =
        '<' :: ("ul>".toList ++ Toc.renderItems entries ++ "</ul>".toList ++ r) := rfl
    rw [hopening]
    exact Text.Separate.of_not_mem (by decide) l _
  exact Text.not_infix_replaceAll tocPlaceholder_ne_nil htable hborder _

/-- A placeholder put together by the passes before is filled, and pieces of it that stand on
both sides of a tag are none. -/
theorem tocPlaceholder_not_infix_fill_of_pieces :
    let heading : Toc.Heading := { level := 1, id := "TOC", name := "HERE" }
    let entries := [Toc.Entry.node heading []]
    let page := fill "TITLEHEREHECONTENTSHERE" "RE" "TOC" (Toc.render entries)
    (forall heading, heading ∈ Toc.preorderAll entries ->
      ¬ tocPlaceholder <:+: heading.id ∧ ¬ tocPlaceholder <:+: heading.name) ∧
      page = Toc.render entries ∧
      ¬ tocPlaceholder <:+: page := by
  intro heading entries page
  have h : forall heading, heading ∈ Toc.preorderAll entries ->
      ¬ tocPlaceholder <:+: heading.id ∧ ¬ tocPlaceholder <:+: heading.name := by
    have hheadings : Toc.preorderAll entries = [heading] := rfl
    rw [hheadings, List.forall_mem_singleton]
    decide
  exact ⟨h, by decide +kernel,
    tocPlaceholder_not_infix_fill "TITLEHEREHECONTENTSHERE" "RE" "TOC" h⟩

end Template
end Folio
