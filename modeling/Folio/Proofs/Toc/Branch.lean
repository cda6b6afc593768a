import Folio.Conversion
import Folio.Proofs.Loading
import Folio.Proofs.Toc.Graded
import Folio.Proofs.Toc.Section

/-!
# The branch of open headings

While the headings of a document are read, the levels of the open ones grow from the
outermost to the innermost and stay in the range that the options keep.  What is closed
already is graded, and all entries from top to bottom are the kept headings read so far.
Closing an entry, opening a heading and closing what is left at the end keep this true, so
that the forest of a document is no deeper than the range of levels is wide.
-/

namespace Folio
namespace Toc
namespace Nesting

/-!
# The invariant
-/

/-- What is true of a nesting when these headings have been read.  The open ones stand with
the innermost first, so that the branch is reversed to go from the outermost inward. -/
structure Invariant (options : Options) (read : List Heading) (nesting : Nesting) : Prop where
  increasing : nesting.branch.reverse.Pairwise fun outer inner =>
    outer.heading.level < inner.heading.level
  levels : forall entry, entry ∈ nesting.branch ->
    options.minLevel ≤ entry.heading.level ∧ entry.heading.level ≤ options.maxLevel
  roots : GradedAll nesting.roots
  attached : forall entry, entry ∈ nesting.branch -> entry.close.Graded
  preorder : preorderAll (nesting.roots ++ nesting.branch.reverse.map OpenEntry.close) =
    read.filter options.keeps

variable {options : Options} {read : List Heading}

theorem Invariant.empty : Invariant options [] empty where
  increasing := List.Pairwise.nil
  levels := by
    intro entry h
    cases h
  roots := True.intro
  attached := by
    intro entry h
    cases h
  preorder := rfl

/-!
# Closing
-/

theorem graded_adopt {parent last : OpenEntry} (hparent : parent.close.Graded)
    (hlast : last.close.Graded) (hlevel : parent.heading.level < last.heading.level) :
    (parent.adopt last).close.Graded := by
  rw [OpenEntry.close, Entry.Graded] at hparent ⊢
  rw [OpenEntry.adopt]
  dsimp only
  rw [gradedAll_append]
  refine ⟨?_, hparent.2, hlast, True.intro⟩
  intro child hchild
  rcases List.mem_append.mp hchild with hold | hnew
  · exact hparent.1 child hold
  · rw [List.mem_singleton.mp hnew]
    exact hlevel

theorem preorder_adopt (parent last : OpenEntry) :
    (parent.adopt last).close.preorder = parent.close.preorder ++ last.close.preorder := by
  simp [OpenEntry.adopt, OpenEntry.close, Entry.preorder, preorderAll_append, preorderAll]

theorem Invariant.close_into {roots : List Entry} {last parent : OpenEntry}
    {branch : List OpenEntry}
    (h : Invariant options read { roots := roots, branch := last :: parent :: branch }) :
    Invariant options read { roots := roots, branch := parent.adopt last :: branch } := by
  have hincreasing := List.pairwise_reverse.mp h.increasing
  rw [List.pairwise_cons, List.pairwise_cons] at hincreasing
  have hlevel : parent.heading.level < last.heading.level :=
    hincreasing.1 parent List.mem_cons_self
  have hlevels := List.forall_mem_cons.mp (List.forall_mem_cons.mp h.levels).2
  have hattached := List.forall_mem_cons.mp h.attached
  have hparent := List.forall_mem_cons.mp hattached.2
  constructor
  · exact List.pairwise_reverse.mpr (List.pairwise_cons.mpr hincreasing.2)
  · exact List.forall_mem_cons.mpr hlevels
  · exact h.roots
  · exact List.forall_mem_cons.mpr
      ⟨graded_adopt hparent.1 hattached.1 hlevel, hparent.2⟩
  · have hpreorder := h.preorder
    simp only [List.reverse_cons, List.map_append, List.map_cons, List.map_nil,
      preorderAll_append, preorderAll, List.append_nil, List.append_assoc] at hpreorder ⊢
    rw [preorder_adopt]
    exact hpreorder

theorem Invariant.close_root {roots : List Entry} {last : OpenEntry}
    (h : Invariant options read { roots := roots, branch := [last] }) :
    Invariant options read { roots := roots ++ [last.close], branch := [] } where
  increasing := List.Pairwise.nil
  levels := by
    intro entry h
    cases h
  roots := gradedAll_append.mpr ⟨h.roots, h.attached last List.mem_cons_self, True.intro⟩
  attached := by
    intro entry h
    cases h
  preorder := by
    have hpreorder := h.preorder
    simpa using hpreorder

theorem Invariant.closeDownTo (level : Nat) {roots : List Entry} {branch : List OpenEntry}
    (h : Invariant options read { roots := roots, branch := branch }) :
    Invariant options read (closeDownTo level roots branch) := by
  induction branch using closeDownTo.induct level with
  | case1 =>
      rw [Nesting.closeDownTo]
      exact h
  | case2 last hlevel =>
      rw [Nesting.closeDownTo, if_pos hlevel]
      exact h
  | case3 last hlevel =>
      rw [Nesting.closeDownTo, if_neg hlevel]
      exact h.close_root
  | case4 last parent rest hlevel =>
      rw [Nesting.closeDownTo, if_pos hlevel]
      exact h
  | case5 last parent rest hlevel ih =>
      rw [Nesting.closeDownTo, if_neg hlevel]
      exact ih h.close_into

theorem Invariant.finish {roots : List Entry} {branch : List OpenEntry}
    (h : Invariant options read { roots := roots, branch := branch }) :
    Invariant options read { roots := finish roots branch, branch := [] } := by
  induction branch using finish.induct with
  | case1 =>
      rw [Nesting.finish]
      exact h
  | case2 last =>
      rw [Nesting.finish]
      exact h.close_root
  | case3 last parent rest ih =>
      rw [Nesting.finish]
      exact ih h.close_into

/-!
# Opening
-/

theorem Invariant.open_heading {nesting : Nesting} {heading : Heading}
    (h : Invariant options read nesting) (hadmits : Admits nesting.branch heading)
    (hkeeps : options.keeps heading = true) :
    Invariant options (read ++ [heading])
      { nesting with branch := OpenEntry.ofHeading heading :: nesting.branch } := by
  have hincreasing := List.pairwise_reverse.mp h.increasing
  have hinside : forall entry, entry ∈ nesting.branch -> entry.heading.level < heading.level := by
    intro entry hentry
    cases hbranch : nesting.branch with
    | nil =>
        rw [hbranch] at hentry
        cases hentry
    | cons last branch =>
        rw [hbranch] at hentry hincreasing hadmits
        have hlast : last.heading.level < heading.level := by
          simpa [Heading.isAbove] using hadmits last rfl
        cases hentry with
        | head =>
            exact hlast
        | tail _ houter =>
            exact Nat.lt_trans ((List.pairwise_cons.mp hincreasing).1 entry houter) hlast
  constructor
  · exact List.pairwise_reverse.mpr (List.pairwise_cons.mpr ⟨hinside, hincreasing⟩)
  · exact List.forall_mem_cons.mpr ⟨Options.keeps_iff.mp hkeeps, h.levels⟩
  · exact h.roots
  · refine List.forall_mem_cons.mpr ⟨?_, h.attached⟩
    simp [OpenEntry.ofHeading, OpenEntry.close, Entry.Graded, GradedAll]
  · have hpreorder := h.preorder
    rw [preorderAll_append] at hpreorder
    rw [List.filter_append, List.filter_cons_of_pos hkeeps, ← hpreorder]
    simp [preorderAll_append, preorderAll, Entry.preorder, OpenEntry.ofHeading, OpenEntry.close]

theorem Invariant.push {nesting : Nesting} (h : Invariant options read nesting)
    (heading : Heading) : Invariant options (read ++ [heading]) (push options nesting heading) := by
  unfold Nesting.push
  cases hkeeps : options.keeps heading with
  | false =>
      have hread : (read ++ [heading]).filter options.keeps = read.filter options.keeps := by
        simp [hkeeps]
      exact { h with preorder := h.preorder.trans hread.symm }
  | true =>
      have hclosed := Invariant.closeDownTo heading.level h
      have hadmits := admits_closeDownTo nesting.roots nesting.branch heading
      simpa using hclosed.open_heading hadmits hkeeps

theorem Invariant.foldl_push (headings : List Heading) {nesting : Nesting}
    (h : Invariant options read nesting) :
    Invariant options (read ++ headings) (headings.foldl (Nesting.push options) nesting) := by
  induction headings generalizing read nesting with
  | nil =>
      simpa using h
  | cons heading rest ih =>
      simpa using ih (h.push heading)

/-!
# How much can be open
-/

theorem length_le_of_increasing {branch : List OpenEntry} {lower upper : Nat}
    (hincreasing : branch.Pairwise fun inner outer => outer.heading.level < inner.heading.level)
    (hlower : forall entry, entry ∈ branch -> lower ≤ entry.heading.level)
    (hupper : forall entry, entry ∈ branch -> entry.heading.level < upper) :
    branch.length ≤ upper - lower := by
  induction branch generalizing upper with
  | nil =>
      exact Nat.zero_le _
  | cons last branch ih =>
      rw [List.pairwise_cons] at hincreasing
      rw [List.forall_mem_cons] at hlower hupper
      have hrest := ih hincreasing.2 hlower.2 hincreasing.1
      have hlast := hlower.1
      have hlevel := hupper.1
      rw [List.length_cons]
      omega

theorem Invariant.length_branch_le {nesting : Nesting} (h : Invariant options read nesting) :
    nesting.branch.length ≤ options.maxLevel + 1 - options.minLevel :=
  length_le_of_increasing (List.pairwise_reverse.mp h.increasing)
    (fun entry hentry => (h.levels entry hentry).1)
    (fun entry hentry => Nat.lt_succ_of_le (h.levels entry hentry).2)

end Nesting

/-!
# Forests of documents
-/

theorem gradedAll_nest (options : Options) (headings : List Heading) :
    GradedAll (nest options headings) := by
  have hread : Nesting.Invariant options headings _ :=
    Nesting.Invariant.empty.foldl_push headings
  exact hread.finish.roots

theorem depthAll_nest_le (options : Options) (headings : List Heading) :
    depthAll (nest options headings) ≤ options.maxLevel + 1 - options.minLevel := by
  have hlevels := (fits_nest options headings).levels
  apply (gradedAll_nest options headings).depthAll_le
  · intro entry hentry
    exact (hlevels entry.heading (heading_mem_preorderAll hentry)).1
  · intro heading hheading
    exact (hlevels heading hheading).2

theorem renderWithin?_nest {options : Options} (h : options.Valid) (headings : List Heading) :
    renderWithin? 6 (nest options headings) = some (render (nest options headings)) := by
  have hdepth := depthAll_nest_le options headings
  have hmin := h.one_le
  have hmax := h.le_six
  rw [renderWithin?_eq, if_pos (by omega)]

/-- Before every heading that is read, and behind the last one, the levels of the open
headings grow inward and stay in range, all entries are graded, and from top to bottom they
are the kept headings so far.  So no more headings are open than there are levels, the
finished forest is no deeper than that, and with valid settings the table of every document
takes six lists inside one another at most. -/
theorem nesting_invariant [Highlighter] (options : Options) (headings : List Heading) :
    let nestingAfter := fun n => (headings.take n).foldl (Nesting.push options) Nesting.empty
    (forall n,
      Nesting.Invariant options (headings.take n) (nestingAfter n) ∧
        (nestingAfter n).branch.length ≤ options.maxLevel + 1 - options.minLevel ∧
        (options.maxLevel < options.minLevel -> (nestingAfter n).branch = [])) ∧
      depthAll (nest options headings) ≤ options.maxLevel + 1 - options.minLevel ∧
      forall (settings : Settings) (source : Text), settings.fault? = none ->
        let conversion := settings.convert source
        renderWithin? 6 conversion.headings = some conversion.toc := by
  intro nestingAfter
  refine ⟨?_, depthAll_nest_le options headings, ?_⟩
  · intro n
    have hinvariant : Nesting.Invariant options (headings.take n) (nestingAfter n) :=
      Nesting.Invariant.empty.foldl_push (headings.take n)
    have hlength := hinvariant.length_branch_le
    refine ⟨hinvariant, hlength, ?_⟩
    intro hrange
    apply List.length_eq_zero_iff.mp
    omega
  · intro settings source hvalid
    have hvalid := Settings.fault?_eq_none_iff.mp hvalid
    simp only [Settings.convert, Settings.headings, Conversion.toc]
    cases settings.has Extension.toc with
    | false =>
        rfl
    | true =>
        exact renderWithin?_nest hvalid _

/-- Behind the third heading `b` is open inside `a`; without levels nothing is open. -/
theorem nesting_invariant_of_level_jump :
    let _ : Highlighter := Highlighter.wholeCode
    let options : Options := { minLevel := 2, maxLevel := 4, marker := "[TOC]" }
    let empty : Options := { minLevel := 3, maxLevel := 2, marker := "[TOC]" }
    let headings : List Heading := [⟨1, "t", "T"⟩, ⟨2, "a", "A"⟩, ⟨4, "b", "B"⟩, ⟨3, "c", "C"⟩]
    let nesting := (headings.take 3).foldl (Nesting.push options) Nesting.empty
    let conversion := Settings.default.convert "# A\n\n### B\n"
    (nesting.branch.map fun entry => entry.heading.level) = [4, 2] ∧
      Nesting.Invariant options (headings.take 3) nesting ∧ nesting.branch.length ≤ 3 ∧
      empty.maxLevel < empty.minLevel ∧
      ((headings.take 3).foldl (Nesting.push empty) Nesting.empty).branch = [] ∧
      depthAll (nest options headings) ≤ 3 ∧ Settings.default.fault? = none ∧
      renderWithin? 6 conversion.headings = some conversion.toc := by
  intro _ options empty headings nesting conversion
  rcases nesting_invariant options headings with ⟨hstates, hdepth, hrender⟩
  rcases hstates 3 with ⟨hinvariant, hlength, -⟩
  have hrange : empty.maxLevel < empty.minLevel := by decide
  have hempty := ((nesting_invariant empty headings).1 3).2.2 hrange
  have hvalid : Settings.default.fault? = none := by decide
  have hbranch : (nesting.branch.map fun entry => entry.heading.level) = [4, 2] := by
    simp [nesting, headings, options, Nesting.push, Nesting.empty, Nesting.closeDownTo,
      Options.keeps, OpenEntry.ofHeading]
  exact ⟨hbranch, hinvariant, hlength, hrange, hempty, hdepth, hvalid, hrender _ _ hvalid⟩

end Toc
end Folio
