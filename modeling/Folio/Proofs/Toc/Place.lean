import Folio.Proofs.Toc.Outline

/-!
# Places in a table of contents

The entries of a forest have places: numbers given from top to bottom.  In the
forest of a document an entry has the place that its heading has among the kept
headings, and it stands below the closest heading before it that has a smaller
level, or among the roots when there is none.  The entries below one entry, and
the roots, stand in the order of the document.
-/

namespace Folio
namespace Toc

/-!
# The closest heading above
-/

def levelAt (headings : List Heading) (i : Nat) : Nat :=
  (headings[i]?.map Heading.level).getD 0

/-- The place of the closest heading before place `i` that has a smaller level
than the heading there. -/
def closestAbove (headings : List Heading) (i : Nat) : Option Nat :=
  (List.range i).reverse.find? fun j => levelAt headings j < levelAt headings i

theorem levelAt_append_left {headings : List Heading} {i : Nat} (h : i < headings.length)
    (others : List Heading) : levelAt (headings ++ others) i = levelAt headings i := by
  simp [levelAt, List.getElem?_append_left h]

theorem levelAt_append_right (headings others : List Heading) (i : Nat) :
    levelAt (headings ++ others) (headings.length + i) = levelAt others i := by
  simp [levelAt, List.getElem?_append_right]

theorem closestAbove_zero (headings : List Heading) : closestAbove headings 0 = none := by
  rfl

theorem closestAbove_cons_succ (heading : Heading) (rest : List Heading) (i : Nat) :
    closestAbove (heading :: rest) (i + 1) =
      ((closestAbove rest i).map Nat.succ).or
        (if heading.level < levelAt rest i then some 0 else none) := by
  have hlevel : forall j, levelAt (heading :: rest) (j + 1) = levelAt rest j := by
    intro j
    simp [levelAt]
  have hfirst : levelAt (heading :: rest) 0 = heading.level := by
    simp [levelAt]
  unfold closestAbove
  rw [List.range_succ_eq_map, List.reverse_cons, List.find?_append, ← List.map_reverse,
    List.find?_map]
  simp only [Function.comp_def, hlevel, List.find?_singleton, hfirst, decide_eq_true_eq]

theorem closestAbove_append_left {headings : List Heading} {i : Nat} (h : i < headings.length)
    (others : List Heading) :
    closestAbove (headings ++ others) i = closestAbove headings i := by
  induction headings generalizing i with
  | nil =>
      cases h
  | cons heading rest ih =>
      cases i with
      | zero =>
          rfl
      | succ i =>
          have hi : i < rest.length := by
            simpa using h
          rw [List.cons_append, closestAbove_cons_succ, closestAbove_cons_succ, ih hi,
            levelAt_append_left hi]

theorem closestAbove_append_right {headings others : List Heading} {i : Nat}
    (h : closestAbove others i = none ->
      forall heading, heading ∈ headings -> levelAt others i ≤ heading.level) :
    closestAbove (headings ++ others) (headings.length + i) =
      (closestAbove others i).map (headings.length + ·) := by
  induction headings with
  | nil =>
      simp
  | cons heading rest ih =>
      have hrest : closestAbove others i = none ->
          forall heading, heading ∈ rest -> levelAt others i ≤ heading.level := by
        intro hnone other hother
        exact h hnone other (List.mem_cons_of_mem heading hother)
      rw [List.cons_append, List.length_cons, Nat.add_right_comm, closestAbove_cons_succ,
        ih hrest, levelAt_append_right]
      cases hclosest : closestAbove others i with
      | none =>
          have hle : levelAt others i ≤ heading.level :=
            h hclosest heading List.mem_cons_self
          simp [Nat.not_lt.mpr hle]
      | some j =>
          simp [Nat.add_right_comm]

theorem levelAt_le_of_closestAbove_eq_none {headings : List Heading} {i : Nat}
    (h : closestAbove headings i = none) : levelAt headings i ≤ levelAt headings 0 := by
  cases i with
  | zero =>
      exact Nat.le_refl _
  | succ i =>
      have hfirst := List.find?_eq_none.mp h 0 (by simp)
      simpa using hfirst

/-!
# Links
-/

mutual

/-- For every entry, from top to bottom, the place of the entry above it, if there
is one, and its own place; the first place is `start`. -/
def Entry.links (parent : Option Nat) (start : Nat) : Entry -> List (Option Nat × Nat)
  | Entry.node _ children => (parent, start) :: linksAll (some start) (start + 1) children

def linksAll (parent : Option Nat) (start : Nat) : List Entry -> List (Option Nat × Nat)
  | [] => []
  | entry :: entries =>
      entry.links parent start ++ linksAll parent (start + entry.preorder.length) entries

end

/-- The places of the entries right below the one at the given place, or of the
roots, in the order in which they stand. -/
def row (parent : Option Nat) (entries : List Entry) : List Nat :=
  ((linksAll none 0 entries).filter fun link => link.1 = parent).map Prod.snd

theorem closestAbove_section {heading : Heading} {section_ : List Heading}
    (h : forall lower, lower ∈ section_ -> heading.isAbove lower = true)
    (others : List Heading) {i : Nat} (hi : i < section_.length) :
    closestAbove (heading :: (section_ ++ others)) (i + 1) =
      ((closestAbove section_ i).map Nat.succ).or (some 0) := by
  have hlevel : levelAt section_ i = section_[i].level := by
    simp [levelAt, hi]
  have habove : heading.level < section_[i].level := by
    simpa [Heading.isAbove] using h section_[i] (List.getElem_mem hi)
  rw [closestAbove_cons_succ, closestAbove_append_left hi, levelAt_append_left hi, hlevel,
    if_pos habove]

theorem closestAbove_behind_section {heading : Heading} {section_ others : List Heading}
    (hsection : forall lower, lower ∈ section_ -> heading.isAbove lower = true)
    (hothers : levelAt others 0 ≤ heading.level) (i : Nat) :
    closestAbove (heading :: (section_ ++ others)) (section_.length + 1 + i) =
      (closestAbove others i).map (section_.length + 1 + ·) := by
  have hlevels : closestAbove others i = none ->
      forall upper, upper ∈ heading :: section_ -> levelAt others i ≤ upper.level := by
    intro hnone upper hupper
    have hle : levelAt others i ≤ heading.level :=
      Nat.le_trans (levelAt_le_of_closestAbove_eq_none hnone) hothers
    cases hupper with
    | head =>
        exact hle
    | tail _ hmem =>
        have habove : heading.level < upper.level := by
          simpa [Heading.isAbove] using hsection upper hmem
        omega
  exact closestAbove_append_right hlevels

theorem levelAt_dropWhile_isAbove (heading : Heading) (rest : List Heading) :
    levelAt (rest.dropWhile heading.isAbove) 0 ≤ heading.level := by
  induction rest with
  | nil =>
      simp [levelAt]
  | cons next rest ih =>
      cases h : heading.isAbove next with
      | true =>
          rw [List.dropWhile_cons_of_pos h]
          exact ih
      | false =>
          have hle : next.level ≤ heading.level := by
            simpa [Heading.isAbove] using h
          simpa [h, levelAt] using hle

theorem linksAll_outline (parent : Option Nat) (start : Nat) (headings : List Heading) :
    linksAll parent start (outline headings) =
      (List.range headings.length).map fun i =>
        (((closestAbove headings i).map (start + ·)).or parent, start + i) := by
  induction headings using outline.induct generalizing parent start with
  | case1 =>
      simp [outline, linksAll]
  | case2 heading rest ihSection ihRest =>
      have hsection : forall lower, lower ∈ rest.takeWhile heading.isAbove ->
          heading.isAbove lower = true := by
        intro lower hlower
        exact List.mem_takeWhile_imp hlower
      have hothers := levelAt_dropWhile_isAbove heading rest
      have hrest : rest = rest.takeWhile heading.isAbove ++ rest.dropWhile heading.isAbove :=
        List.takeWhile_append_dropWhile.symm
      rw [outline, linksAll, Entry.links, Entry.preorder, preorderAll_outline, ihSection, ihRest]
      generalize rest.takeWhile heading.isAbove = section_ at *
      generalize rest.dropWhile heading.isAbove = others at *
      subst hrest
      have hlength : (heading :: (section_ ++ others)).length =
          (1 + section_.length) + others.length := by
        simp
        omega
      rw [hlength, List.range_add, List.range_add, List.map_append, List.map_append,
        List.map_map, List.map_map]
      congr 1
      · rw [List.range_one, List.map_singleton, List.singleton_append, closestAbove_zero]
        refine congrArg (List.cons _) ?_
        apply List.map_congr_left
        intro i hi
        have hclosest := closestAbove_section hsection others (List.mem_range.mp hi)
        rw [Function.comp_apply, Nat.add_comm 1 i, hclosest]
        cases closestAbove section_ i with
        | none =>
            simp [Nat.add_comm, Nat.add_left_comm]
        | some j =>
            simp [Nat.add_comm, Nat.add_left_comm]
      · apply List.map_congr_left
        intro i _
        have hclosest := closestAbove_behind_section hsection hothers i
        rw [Function.comp_apply, Nat.add_comm 1 section_.length, hclosest, List.length_cons,
          Option.map_map]
        simp [Function.comp_def, Nat.add_assoc]

theorem row_outline (parent : Option Nat) (headings : List Heading) :
    row parent (outline headings) =
      (List.range headings.length).filter fun i => closestAbove headings i = parent := by
  have hlinks : linksAll none 0 (outline headings) =
      (List.range headings.length).map fun i => (closestAbove headings i, i) := by
    rw [linksAll_outline]
    simp
  rw [row, hlinks, List.filter_map, List.map_map]
  simp [Function.comp_def]

/-- The entries of a document's forest are the kept headings, each at its place.
Below the entry at a place, and among the roots when `parent` is none, stand
exactly the headings whose closest heading above is there, in their order. -/
theorem row_nest (options : Options) (headings : List Heading) :
    let kept := headings.filter options.keeps
    let forest := nest options headings
    preorderAll forest = kept ∧
      forall parent, row parent forest =
        (List.range kept.length).filter fun i => closestAbove kept i = parent := by
  intro kept forest
  have hforest : forest = outline kept := nest_eq_outline options headings
  rw [hforest]
  exact ⟨preorderAll_outline kept, fun parent => row_outline parent kept⟩

end Toc
end Folio
