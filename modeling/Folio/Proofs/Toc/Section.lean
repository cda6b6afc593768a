import Folio.Proofs.Toc.Outline

/-!
# Sections of sections

A forest is well nested when every entry has a smaller level than the entries below it,
and of two neighbours the latter does not have the greater level.  Such a forest is all
in the row of its headings: the section of a heading ends where the entry does, so that
nesting the row gives the forest back.  The forests of documents are of this kind.
-/

namespace Folio
namespace Toc

/-!
# Well nested forests
-/

mutual

/-- Whether an entry has a smaller level than those right below it, and those are well
nested. -/
def Entry.WellNested : Entry -> Prop
  | Entry.node heading children =>
      (forall child, child ∈ children -> heading.level < child.heading.level) ∧
        WellNestedAll children

/-- Whether the entries of a row are well nested, each with a level that is at most that
of the one before it. -/
def WellNestedAll : List Entry -> Prop
  | [] => True
  | entry :: entries =>
      entry.WellNested ∧
        (forall next, next ∈ entries.head? -> next.heading.level ≤ entry.heading.level) ∧
        WellNestedAll entries

end

/-- Whether a forest is well nested, with levels that the options allow. -/
structure Options.Fits (options : Options) (forest : List Entry) : Prop where
  levels : forall heading, heading ∈ preorderAll forest ->
    options.minLevel ≤ heading.level ∧ heading.level ≤ options.maxLevel
  wellNested : WellNestedAll forest

theorem Options.keeps_iff {options : Options} {heading : Heading} :
    options.keeps heading = true ↔
      options.minLevel ≤ heading.level ∧ heading.level ≤ options.maxLevel := by
  simp [keeps]

/-!
# Where a section ends
-/

theorem heading_mem_preorderAll {entries : List Entry} {entry : Entry} (h : entry ∈ entries) :
    entry.heading ∈ preorderAll entries := by
  induction entries with
  | nil =>
      cases h
  | cons first rest ih =>
      rw [preorderAll, List.mem_append]
      cases h with
      | head =>
          rcases entry with ⟨heading, children⟩
          exact Or.inl (by rw [Entry.preorder]; exact List.mem_cons_self)
      | tail _ hrest =>
          exact Or.inr (ih hrest)

mutual

theorem Entry.WellNested.isAbove :
    forall {entry : Entry} {upper : Heading}, entry.WellNested ->
      upper.isAbove entry.heading = true ->
        forall lower, lower ∈ entry.preorder -> upper.isAbove lower = true
  | Entry.node heading children, upper, hnested, hupper => by
      rw [Entry.WellNested] at hnested
      rw [Entry.preorder, List.forall_mem_cons]
      refine ⟨hupper, hnested.2.isAbove ?_⟩
      intro child hchild
      have hheading : heading.isAbove child.heading = true := by
        simpa [Heading.isAbove] using hnested.1 child hchild
      exact Heading.isAbove_trans hupper child.heading hheading

theorem WellNestedAll.isAbove :
    forall {entries : List Entry} {upper : Heading}, WellNestedAll entries ->
      (forall entry, entry ∈ entries -> upper.isAbove entry.heading = true) ->
        forall lower, lower ∈ preorderAll entries -> upper.isAbove lower = true
  | [], _, _, _ => by
      intro lower hlower
      cases hlower
  | entry :: entries, upper, hnested, hupper => by
      rw [WellNestedAll] at hnested
      rw [List.forall_mem_cons] at hupper
      rw [preorderAll, List.forall_mem_append]
      exact ⟨hnested.1.isAbove hupper.1, hnested.2.2.isAbove hupper.2⟩

end

theorem section_of_wellNested {heading : Heading} {children others : List Entry}
    (h : WellNestedAll (Entry.node heading children :: others)) :
    let rest := preorderAll children ++ preorderAll others
    rest.takeWhile heading.isAbove = preorderAll children ∧
      rest.dropWhile heading.isAbove = preorderAll others := by
  intro rest
  rw [WellNestedAll, Entry.WellNested] at h
  rcases h with ⟨⟨hchildren, hnested⟩, hnext, _⟩
  have hbelow : forall lower, lower ∈ preorderAll children -> heading.isAbove lower = true := by
    apply hnested.isAbove
    intro child hchild
    simpa [Heading.isAbove] using hchildren child hchild
  rw [List.takeWhile_append_of_pos hbelow, List.dropWhile_append_of_pos hbelow]
  cases others with
  | nil =>
      simp [preorderAll]
  | cons next others =>
      rcases next with ⟨other, below⟩
      have hle : other.level ≤ heading.level := hnext (Entry.node other below) rfl
      have hnot : heading.isAbove other = false := by
        simpa [Heading.isAbove] using hle
      simp [preorderAll, Entry.preorder, hnot]

/-!
# Forests and rows
-/

theorem eq_outline_of_wellNested {headings : List Heading} {forest : List Entry}
    (h : WellNestedAll forest) (hrow : preorderAll forest = headings) :
    forest = outline headings := by
  induction headings using outline.induct generalizing forest with
  | case1 =>
      cases forest with
      | nil =>
          rw [outline]
      | cons entry entries =>
          rcases entry with ⟨heading, children⟩
          rw [preorderAll, Entry.preorder] at hrow
          cases hrow
  | case2 heading rest ihSection ihRest =>
      cases forest with
      | nil =>
          cases hrow
      | cons entry entries =>
          rcases entry with ⟨first, children⟩
          rw [preorderAll, Entry.preorder, List.cons_append] at hrow
          injection hrow with hfirst hrest
          subst hfirst hrest
          rcases section_of_wellNested h with ⟨hsection, hothers⟩
          rw [WellNestedAll, Entry.WellNested] at h
          have hchildren := ihSection h.1.2 hsection.symm
          have hentries := ihRest h.2.2 hothers.symm
          rw [outline, ← hchildren, ← hentries]

theorem wellNestedAll_outline (headings : List Heading) : WellNestedAll (outline headings) := by
  induction headings using outline.induct with
  | case1 =>
      rw [outline]
      exact True.intro
  | case2 heading rest ihSection ihRest =>
      rw [outline, WellNestedAll, Entry.WellNested]
      refine ⟨⟨?_, ihSection⟩, ?_, ihRest⟩
      · intro child hchild
        have hmem := heading_mem_preorderAll hchild
        rw [preorderAll_outline] at hmem
        simpa [Heading.isAbove] using List.mem_takeWhile_imp hmem
      · have hstops := List.head?_dropWhile_not heading.isAbove rest
        intro next hnext
        cases hothers : rest.dropWhile heading.isAbove with
        | nil =>
            rw [hothers, outline] at hnext
            cases hnext
        | cons other others =>
            rw [hothers] at hstops
            rw [hothers, outline] at hnext
            cases hnext
            simpa [Heading.isAbove, Entry.heading] using hstops

theorem fits_nest (options : Options) (headings : List Heading) :
    options.Fits (nest options headings) where
  levels := by
    intro heading hmem
    rw [preorderAll_nest] at hmem
    exact Options.keeps_iff.mp (List.mem_filter.mp hmem).2
  wellNested := by
    rw [nest_eq_outline]
    exact wellNestedAll_outline _

/-- Nesting undoes reading from top to bottom for the forests that fit the options, and
for no other ones.  Every result of nesting fits them, so that nesting its row of headings
once more changes nothing. -/
theorem nest_preorderAll (options : Options) :
    (forall forest, nest options (preorderAll forest) = forest ↔ options.Fits forest) ∧
      forall headings,
        options.Fits (nest options headings) ∧
          nest options (preorderAll (nest options headings)) = nest options headings := by
  have hiff : forall forest,
      nest options (preorderAll forest) = forest ↔ options.Fits forest := by
    intro forest
    constructor
    · intro h
      rw [← h]
      exact fits_nest options (preorderAll forest)
    · intro h
      have hkept : (preorderAll forest).filter options.keeps = preorderAll forest :=
        List.filter_eq_self.mpr fun heading hmem => Options.keeps_iff.mpr (h.levels heading hmem)
      rw [nest_eq_outline, hkept]
      exact (eq_outline_of_wellNested h.wellNested rfl).symm
  refine ⟨hiff, ?_⟩
  intro headings
  have hfits := fits_nest options headings
  exact ⟨hfits, (hiff _).mpr hfits⟩

end Toc
end Folio
