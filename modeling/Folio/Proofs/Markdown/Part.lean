import Folio.Markdown.Page

/-!
# Parts of a page

Tables are printed in markup alone.  Links back from a note change nothing but
the number of the last note that has them.  Parts are printed one after the other:
all that one part passes on to the next is whether a line begins there.
-/

namespace Folio
namespace Markdown

namespace Part

def isBare : Part -> Bool
  | markup _ => true
  | freshLine => true
  | _ => false

end Part

/-!
# Tables
-/

theorem isBare_of_mem_cellParts {tag : Text} {columns : List Alignment}
    {row : List (List Inline)} {part : Part} (h : part ∈ cellParts tag columns row) :
    part.isBare = true := by
  induction row generalizing columns with
  | nil =>
      simp [cellParts] at h
  | cons cell rest ih =>
      simp only [cellParts, List.mem_cons] at h
      rcases h with rfl | rfl | hrest
      · rfl
      · rfl
      · exact ih hrest

theorem isBare_of_mem_rowParts {tag : Text} {columns : List Alignment}
    {row : List (List Inline)} {part : Part} (h : part ∈ rowParts tag columns row) :
    part.isBare = true := by
  simp only [rowParts, List.mem_append, List.mem_cons, List.not_mem_nil, or_false] at h
  rcases h with ((rfl | rfl) | hcell) | (rfl | rfl)
  · rfl
  · rfl
  · exact isBare_of_mem_cellParts hcell
  · rfl
  · rfl

theorem isBare_of_mem_tableParts {columns : List Alignment} {rows : List (List (List Inline))}
    {part : Part} (h : part ∈ tableParts columns rows) : part.isBare = true := by
  cases rows with
  | nil =>
      simp [tableParts] at h
  | cons header rows =>
      simp only [tableParts, List.mem_append, List.mem_cons, List.not_mem_nil, or_false] at h
      rcases h with (((((rfl | rfl) | hheader) | (rfl | rfl)) | hrows) | (rfl | rfl))
      · rfl
      · rfl
      · exact isBare_of_mem_rowParts hheader
      · rfl
      · rfl
      · split at hrows
        · simp at hrows
        · simp only [List.mem_append, List.mem_cons, List.mem_flatMap, List.not_mem_nil,
            or_false] at hrows
          rcases hrows with (((rfl | rfl) | ⟨row, _, hrow⟩) | (rfl | rfl))
          · rfl
          · rfl
          · exact isBare_of_mem_rowParts hrow
          · rfl
          · rfl
      · rfl
      · rfl

theorem filterMap_tableParts {α : Type} {f : Part -> Option α}
    (hf : forall part, part.isBare = true -> f part = none) (columns : List Alignment)
    (rows : List (List (List Inline))) : (tableParts columns rows).filterMap f = [] := by
  apply List.filterMap_eq_nil_iff.mpr
  intro part hpart
  exact hf part (isBare_of_mem_tableParts hpart)

/-!
# Links back from a note
-/

theorem Trail.eq_of_backLinks {trail trail' : Trail} {name links : Text} {calls : Nat}
    (h : trail.backLinks name calls = some (links, trail')) :
    links = Markdown.backLinks name trail.notes calls ∧
      trail' = { trail with linked := trail.notes } := by
  unfold Trail.backLinks at h
  split at h
  · cases h
  · injection h with hpair
    injection hpair with hlinks htrail
    exact ⟨hlinks.symm, htrail.symm⟩

/-!
# Printing
-/

theorem endsLine_append (atStart : Bool) (s t : Text) :
    endsLine atStart (s ++ t) = endsLine (endsLine atStart s) t := by
  simp only [endsLine, List.getLast?_append]
  cases t.getLast? with
  | none =>
      cases s.getLast? <;> rfl
  | some c =>
      rfl

theorem endsLine_cons_newline (atStart : Bool) (s : Text) :
    endsLine atStart ('\n' :: s) = endsLine true s := by
  exact endsLine_append atStart ['\n'] s

theorem printFrom_append (code : Text -> Text -> Text) (atStart : Bool)
    (parts others : List Part) :
    printFrom code atStart (parts ++ others) =
      printFrom code atStart parts ++
        printFrom code (endsLine atStart (printFrom code atStart parts)) others := by
  induction parts generalizing atStart with
  | nil =>
      rfl
  | cons part rest ih =>
      cases part with
      | markup s =>
          simp [printFrom, ih, endsLine_append]
      | freshLine =>
          cases atStart with
          | true =>
              simp [printFrom, ih]
          | false =>
              simp [printFrom, ih, endsLine_cons_newline]
      | heading level anchor content =>
          simp [printFrom, ih, endsLine_append, endsLine_cons_newline]
      | paragraph content ending =>
          simp [printFrom, ih, endsLine_append, endsLine_cons_newline]
      | code info literal =>
          simp [printFrom, ih, endsLine_append]

end Markdown
end Folio
