import Mathlib.Data.List.TakeWhile
import Folio.Toc.Nesting

/-!
# Outlines

The outline of a row of headings gives each heading the headings of its section:
those that follow it up to the next one with no greater level.  Nesting a
document reads the headings one by one with a branch of open ones; its forest is
the outline of the headings that the options keep.  Read from top to bottom, an
outline is the row of headings it was made from.
-/

namespace Folio
namespace Toc

/-!
# Forests read from top to bottom
-/

mutual

def Entry.preorder : Entry -> List Heading
  | Entry.node heading children => heading :: preorderAll children

def preorderAll : List Entry -> List Heading
  | [] => []
  | entry :: entries => entry.preorder ++ preorderAll entries

end

/-!
# The outline of a row of headings
-/

/-- Whether the second heading may stand in the section of the first. -/
def Heading.isAbove (upper lower : Heading) : Bool :=
  upper.level < lower.level

/-- The forest in which each heading holds the headings of its section. -/
def outline : List Heading -> List Entry
  | [] => []
  | heading :: rest =>
      Entry.node heading (outline (rest.takeWhile heading.isAbove)) ::
        outline (rest.dropWhile heading.isAbove)
termination_by headings => headings.length
decreasing_by
  · have hle := (List.takeWhile_sublist heading.isAbove (l := rest)).length_le
    rw [List.length_cons]
    omega
  · have hle := List.length_dropWhile_le heading.isAbove rest
    rw [List.length_cons]
    omega

theorem preorderAll_outline (headings : List Heading) :
    preorderAll (outline headings) = headings := by
  induction headings using outline.induct with
  | case1 =>
      simp [outline, preorderAll]
  | case2 heading rest ihSection ihRest =>
      rw [outline, preorderAll, Entry.preorder, ihSection, ihRest, List.cons_append,
        List.takeWhile_append_dropWhile]

/-!
# What becomes of open headings

While headings are read, an open heading takes in those of its section and is
then closed.  What is left goes on to the heading around it, and at last to the
roots.
-/

namespace OpenEntry

def take (entry : OpenEntry) (headings : List Heading) : OpenEntry :=
  { entry with children := entry.children ++ outline headings }

end OpenEntry

namespace Nesting

/-- The forest that a nesting grows into when the given headings are still to
come. -/
def grown (roots : List Entry) : List OpenEntry -> List Heading -> List Entry
  | [], headings => roots ++ outline headings
  | [last], headings =>
      roots ++ [(last.take (headings.takeWhile last.heading.isAbove)).close] ++
        outline (headings.dropWhile last.heading.isAbove)
  | last :: parent :: branch, headings =>
      grown roots
        (parent.adopt (last.take (headings.takeWhile last.heading.isAbove)) :: branch)
        (headings.dropWhile last.heading.isAbove)
termination_by branch => branch.length

theorem grown_nil (roots : List Entry) (branch : List OpenEntry) :
    grown roots branch [] = finish roots branch := by
  induction branch using finish.induct with
  | case1 =>
      simp [grown, finish, outline]
  | case2 last =>
      simp [grown, finish, outline, OpenEntry.take]
  | case3 last parent rest ih =>
      simpa [grown, finish, outline, OpenEntry.take] using ih

theorem grown_closeDownTo (roots : List Entry) (branch : List OpenEntry) (heading : Heading)
    (rest : List Heading) :
    grown (closeDownTo heading.level roots branch).roots
        (closeDownTo heading.level roots branch).branch (heading :: rest) =
      grown roots branch (heading :: rest) := by
  induction branch using closeDownTo.induct heading.level with
  | case1 =>
      rw [closeDownTo]
  | case2 last h =>
      rw [closeDownTo, if_pos h]
  | case3 last h =>
      have hnot : last.heading.isAbove heading = false := by
        simpa [Heading.isAbove] using h
      rw [closeDownTo, if_neg h]
      simp [grown, hnot, OpenEntry.take, outline]
  | case4 last parent branch h =>
      rw [closeDownTo, if_pos h]
  | case5 last parent branch h ih =>
      have hnot : last.heading.isAbove heading = false := by
        simpa [Heading.isAbove] using h
      rw [closeDownTo, if_neg h, ih]
      simp [grown, hnot, OpenEntry.take, outline]

end Nesting

/-!
# Opening a heading

The section of a heading that lies in the section of another one is cut off at
the same place, whether the outer section is cut first or the inner one.
-/

section Sections

variable {inner outer : Heading -> Bool} (h : forall lower, inner lower = true -> outer lower = true)

include h

theorem takeWhile_section (headings : List Heading) :
    (headings.takeWhile outer).takeWhile inner = headings.takeWhile inner := by
  induction headings with
  | nil =>
      rfl
  | cons heading rest ih =>
      cases hinner : inner heading with
      | true =>
          simp [hinner, h heading hinner, ih]
      | false =>
          cases houter : outer heading <;> simp [hinner, houter]

theorem dropWhile_section (headings : List Heading) :
    (headings.takeWhile outer).dropWhile inner = (headings.dropWhile inner).takeWhile outer := by
  induction headings with
  | nil =>
      rfl
  | cons heading rest ih =>
      cases hinner : inner heading with
      | true =>
          simp [hinner, h heading hinner, ih]
      | false =>
          cases houter : outer heading <;> simp [hinner, houter]

theorem dropWhile_behind_section (headings : List Heading) :
    (headings.dropWhile inner).dropWhile outer = headings.dropWhile outer := by
  induction headings with
  | nil =>
      rfl
  | cons heading rest ih =>
      cases hinner : inner heading with
      | true =>
          simp [hinner, h heading hinner, ih]
      | false =>
          simp [hinner]

end Sections

theorem Heading.isAbove_trans {upper middle : Heading} (h : upper.isAbove middle = true)
    (lower : Heading) (hlower : middle.isAbove lower = true) : upper.isAbove lower = true := by
  simp only [isAbove, decide_eq_true_eq] at *
  omega

namespace OpenEntry

theorem take_adopt {last : OpenEntry} {heading : Heading}
    (h : last.heading.isAbove heading = true) (rest : List Heading) :
    (last.adopt ((ofHeading heading).take (rest.takeWhile heading.isAbove))).take
        ((rest.dropWhile heading.isAbove).takeWhile last.heading.isAbove) =
      last.take ((heading :: rest).takeWhile last.heading.isAbove) := by
  have htrans := Heading.isAbove_trans h
  rw [List.takeWhile_cons_of_pos h]
  simp [take, adopt, ofHeading, close, outline, takeWhile_section htrans,
    dropWhile_section htrans]

end OpenEntry

namespace Nesting

def Admits (branch : List OpenEntry) (heading : Heading) : Prop :=
  forall last, last ∈ branch.head? -> last.heading.isAbove heading = true

theorem admits_closeDownTo (roots : List Entry) (branch : List OpenEntry) (heading : Heading) :
    Admits (closeDownTo heading.level roots branch).branch heading := by
  induction branch using closeDownTo.induct heading.level with
  | case1 =>
      simp [closeDownTo, Admits]
  | case2 last h =>
      simp [closeDownTo, Admits, Heading.isAbove, h]
  | case3 last h =>
      simp [closeDownTo, Admits, h]
  | case4 last parent branch h =>
      simp [closeDownTo, Admits, Heading.isAbove, h]
  | case5 last parent branch h ih =>
      rw [closeDownTo, if_neg h]
      exact ih

theorem grown_open {branch : List OpenEntry} {heading : Heading} (h : Admits branch heading)
    (roots : List Entry) (rest : List Heading) :
    grown roots (OpenEntry.ofHeading heading :: branch) rest =
      grown roots branch (heading :: rest) := by
  cases branch with
  | nil =>
      simp [grown, outline, OpenEntry.take, OpenEntry.ofHeading, OpenEntry.close]
  | cons last branch =>
      have hlast : last.heading.isAbove heading = true := h last rfl
      have hrest : (rest.dropWhile heading.isAbove).dropWhile last.heading.isAbove =
          (heading :: rest).dropWhile last.heading.isAbove := by
        rw [List.dropWhile_cons_of_pos hlast]
        exact dropWhile_behind_section (Heading.isAbove_trans hlast) rest
      have htake := OpenEntry.take_adopt hlast rest
      cases branch with
      | nil =>
          rw [grown, grown, grown]
          exact congrArg₂ (fun entry others => roots ++ [OpenEntry.close entry] ++ outline others)
            htake hrest
      | cons parent branch =>
          rw [grown, grown, grown]
          exact congrArg₂ (fun entry others => grown roots (parent.adopt entry :: branch) others)
            htake hrest

/-!
# A whole row of headings
-/

theorem grown_push (options : Options) (nesting : Nesting) (heading : Heading)
    (rest : List Heading) :
    grown (push options nesting heading).roots (push options nesting heading).branch rest =
      grown nesting.roots nesting.branch ([heading].filter options.keeps ++ rest) := by
  unfold push
  cases hkeeps : options.keeps heading with
  | false =>
      simp [hkeeps]
  | true =>
      simp only [hkeeps, if_true, List.filter_cons_of_pos, List.filter_nil, List.singleton_append]
      rw [grown_open (admits_closeDownTo nesting.roots nesting.branch heading),
        grown_closeDownTo]

theorem grown_foldl_push (options : Options) (headings : List Heading) (nesting : Nesting) :
    let last := headings.foldl (push options) nesting
    finish last.roots last.branch =
      grown nesting.roots nesting.branch (headings.filter options.keeps) := by
  induction headings generalizing nesting with
  | nil =>
      simp [grown_nil]
  | cons heading rest ih =>
      have hstep := grown_push options nesting heading (rest.filter options.keeps)
      rw [← List.filter_append, List.singleton_append] at hstep
      rw [← hstep]
      exact ih (push options nesting heading)

end Nesting

theorem nest_eq_outline (options : Options) (headings : List Heading) :
    nest options headings = outline (headings.filter options.keeps) := by
  have hrun := Nesting.grown_foldl_push options headings Nesting.empty
  simpa [nest, Nesting.empty, Nesting.grown] using hrun

theorem preorderAll_nest (options : Options) (headings : List Heading) :
    preorderAll (nest options headings) = headings.filter options.keeps := by
  rw [nest_eq_outline, preorderAll_outline]

end Toc
end Folio
