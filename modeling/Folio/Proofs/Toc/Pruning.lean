import Folio.Proofs.Toc.Outline

/-!
# Pruned forests

A forest is pruned at a level when every entry of a greater level is taken out of it,
with all that stands below the entry; the other entries stay where they are.  Leaving
deep headings out of a document before it is nested comes to the same: such headings
stand in the section of every heading that is kept, so that no section ends at another
place without them.
-/

namespace Folio
namespace Toc

mutual

/-- An entry without the entries below it whose level is greater than `upper`. -/
def Entry.prune (upper : Nat) : Entry -> Entry
  | Entry.node heading children => Entry.node heading (pruneAll upper children)

/-- A row without its entries whose level is greater than `upper`, each of the others
pruned. -/
def pruneAll (upper : Nat) : List Entry -> List Entry
  | [] => []
  | entry :: entries =>
      if entry.heading.level ≤ upper then
        entry.prune upper :: pruneAll upper entries
      else
        pruneAll upper entries

end

/-!
# Sections without some of their headings

Where only headings of a section are left out, the section ends where it did.
-/

section Sections

variable {inner kept : Heading -> Bool}
  (h : forall lower, kept lower = false -> inner lower = true)

include h

theorem takeWhile_filter (headings : List Heading) :
    (headings.filter kept).takeWhile inner = (headings.takeWhile inner).filter kept := by
  induction headings with
  | nil =>
      rfl
  | cons heading rest ih =>
      cases hkept : kept heading with
      | true =>
          cases hinner : inner heading <;> simp [hkept, hinner, ih]
      | false =>
          simp [hkept, h heading hkept, ih]

theorem dropWhile_filter (headings : List Heading) :
    (headings.filter kept).dropWhile inner = (headings.dropWhile inner).filter kept := by
  induction headings with
  | nil =>
      rfl
  | cons heading rest ih =>
      cases hkept : kept heading with
      | true =>
          cases hinner : inner heading <;> simp [hkept, hinner, ih]
      | false =>
          simp [hkept, h heading hkept, ih]

end Sections

/-!
# Pruning an outline
-/

def Heading.isUpTo (upper : Nat) (heading : Heading) : Bool :=
  heading.level ≤ upper

theorem filter_isUpTo_section {upper : Nat} {heading : Heading}
    (h : heading.isUpTo upper = false) (rest : List Heading) :
    (rest.takeWhile heading.isAbove).filter (Heading.isUpTo upper) = [] := by
  apply List.filter_eq_nil_iff.mpr
  intro lower hlower
  have habove := List.mem_takeWhile_imp hlower
  simp only [Heading.isAbove, Heading.isUpTo, decide_eq_true_eq, decide_eq_false_iff_not] at *
  omega

theorem outline_filter_isUpTo (upper : Nat) (headings : List Heading) :
    outline (headings.filter (Heading.isUpTo upper)) = pruneAll upper (outline headings) := by
  induction headings using outline.induct with
  | case1 =>
      simp [outline, pruneAll]
  | case2 heading rest ihSection ihRest =>
      rw [outline, pruneAll]
      cases hkept : heading.isUpTo upper with
      | true =>
          have hlevel : heading.level ≤ upper := by
            simpa [Heading.isUpTo] using hkept
          have hsection : forall lower, Heading.isUpTo upper lower = false ->
              heading.isAbove lower = true := by
            intro lower hlower
            simp only [Heading.isAbove, Heading.isUpTo, decide_eq_true_eq,
              decide_eq_false_iff_not] at *
            omega
          rw [List.filter_cons_of_pos hkept, outline, takeWhile_filter hsection,
            dropWhile_filter hsection, ihSection, ihRest, Entry.heading, if_pos hlevel,
            Entry.prune]
      | false =>
          have hlevel : ¬ heading.level ≤ upper := by
            simpa [Heading.isUpTo] using hkept
          have hrest : rest.filter (Heading.isUpTo upper) =
              (rest.dropWhile heading.isAbove).filter (Heading.isUpTo upper) := by
            rw [← List.takeWhile_append_dropWhile (p := heading.isAbove) (l := rest),
              List.filter_append, filter_isUpTo_section hkept, List.nil_append,
              List.takeWhile_append_dropWhile]
          have hdropped : ¬ heading.isUpTo upper = true := by
            simp [hkept]
          rw [List.filter_cons_of_neg hdropped, hrest, ihRest, Entry.heading, if_neg hlevel]

/-!
# Options that keep fewer levels
-/

theorem keeps_eq_of_maxLevel_le {narrow wide : Options} (hmin : narrow.minLevel = wide.minLevel)
    (hmax : narrow.maxLevel ≤ wide.maxLevel) (heading : Heading) :
    narrow.keeps heading = (heading.isUpTo narrow.maxLevel && wide.keeps heading) := by
  rw [Bool.eq_iff_iff]
  simp only [Options.keeps, Heading.isUpTo, Bool.and_eq_true, decide_eq_true_eq, hmin]
  omega

/-- Lowering the greatest level only prunes the forest of a document. -/
theorem nest_eq_pruneAll {narrow wide : Options} (hmin : narrow.minLevel = wide.minLevel)
    (hmax : narrow.maxLevel ≤ wide.maxLevel) (headings : List Heading) :
    nest narrow headings = pruneAll narrow.maxLevel (nest wide headings) := by
  have hkept : headings.filter narrow.keeps =
      (headings.filter wide.keeps).filter (Heading.isUpTo narrow.maxLevel) := by
    rw [List.filter_filter]
    exact List.filter_congr fun heading _ => keeps_eq_of_maxLevel_le hmin hmax heading
  rw [nest_eq_outline, nest_eq_outline, hkept, outline_filter_isUpTo]

/-- The heading `c` closes `b` where all levels are kept. -/
theorem nest_eq_pruneAll_of_closing_heading :
    let wide : Options := { minLevel := 1, maxLevel := 6, marker := "[TOC]" }
    let narrow : Options := { minLevel := 1, maxLevel := 2, marker := "[TOC]" }
    let headings : List Heading :=
      [⟨1, "a", "A"⟩, ⟨4, "b", "B"⟩, ⟨3, "c", "C"⟩, ⟨2, "d", "D"⟩]
    narrow.minLevel = wide.minLevel ∧ narrow.maxLevel ≤ wide.maxLevel ∧
      nest narrow headings = pruneAll narrow.maxLevel (nest wide headings) := by
  intro wide narrow headings
  have hmin : narrow.minLevel = wide.minLevel := rfl
  have hmax : narrow.maxLevel ≤ wide.maxLevel := by decide
  exact ⟨hmin, hmax, nest_eq_pruneAll hmin hmax headings⟩

end Toc
end Folio
