import Folio.Proofs.Toc.Outline
import Folio.Toc.Rendering

/-!
# Graded forests

A forest is graded when every entry has a greater level than the entry above it.  On every
way down a graded forest the levels grow, so that it is no deeper than the range of its
levels is wide.  The depth is also the number of lists that lie inside one another in the
table of the forest.
-/

namespace Folio
namespace Toc

/-!
# Levels that grow downward
-/

mutual

/-- Whether an entry, and every one below it, has a smaller level than those right below. -/
def Entry.Graded : Entry -> Prop
  | Entry.node heading children =>
      (forall child, child ∈ children -> heading.level < child.heading.level) ∧
        GradedAll children

def GradedAll : List Entry -> Prop
  | [] => True
  | entry :: entries => entry.Graded ∧ GradedAll entries

end

theorem gradedAll_append {entries others : List Entry} :
    GradedAll (entries ++ others) ↔ GradedAll entries ∧ GradedAll others := by
  induction entries with
  | nil =>
      simp [GradedAll]
  | cons entry entries ih =>
      rw [List.cons_append, GradedAll, GradedAll, ih, and_assoc]

theorem preorderAll_append (entries others : List Entry) :
    preorderAll (entries ++ others) = preorderAll entries ++ preorderAll others := by
  induction entries with
  | nil =>
      rfl
  | cons entry entries ih =>
      rw [List.cons_append, preorderAll, preorderAll, ih, List.append_assoc]

/-!
# Depth
-/

mutual

/-- How many entries at most lie below one another, from an entry down. -/
def Entry.depth : Entry -> Nat
  | Entry.node _ children => depthAll children + 1

def depthAll : List Entry -> Nat
  | [] => 0
  | entry :: entries => max entry.depth (depthAll entries)

end

mutual

theorem Entry.Graded.depth_le {upper : Nat} :
    forall {entry : Entry}, entry.Graded ->
      (forall heading, heading ∈ entry.preorder -> heading.level ≤ upper) ->
        entry.depth ≤ upper + 1 - entry.heading.level
  | Entry.node heading children, hgraded, hupper => by
      rw [Entry.Graded] at hgraded
      rw [Entry.preorder, List.forall_mem_cons] at hupper
      have hbelow : depthAll children ≤ upper + 1 - (heading.level + 1) :=
        hgraded.2.depthAll_le hgraded.1 hupper.2
      have hlevel := hupper.1
      rw [Entry.depth, Entry.heading]
      omega

theorem GradedAll.depthAll_le {upper lower : Nat} :
    forall {entries : List Entry}, GradedAll entries ->
      (forall entry, entry ∈ entries -> lower ≤ entry.heading.level) ->
      (forall heading, heading ∈ preorderAll entries -> heading.level ≤ upper) ->
        depthAll entries ≤ upper + 1 - lower
  | [], _, _, _ => Nat.zero_le _
  | entry :: entries, hgraded, hlower, hupper => by
      rw [GradedAll] at hgraded
      rw [List.forall_mem_cons] at hlower
      rw [preorderAll, List.forall_mem_append] at hupper
      have hfirst := hgraded.1.depth_le hupper.1
      have hrest := hgraded.2.depthAll_le hlower.2 hupper.2
      have hlevel := hlower.1
      rw [depthAll]
      omega

end

/-!
# Lists inside one another

The table of a forest is rendered by a list for its roots, and by one for the entries below
an entry wherever there are any.
-/

def below (children : List Entry) : Text :=
  if children.isEmpty then [] else render children

theorem renderEntry_node (heading : Heading) (children : List Entry) :
    renderEntry (Entry.node heading children) =
      "<li>" ++ link heading ++ below children ++ "</li>" := by
  cases children with
  | nil =>
      have hnone : below [] = [] := rfl
      rw [hnone, List.append_nil]
      rfl
  | cons child children =>
      rfl

section Items

variable (renderList? : List Entry -> Option Text)

def belowWith? (children : List Entry) : Option Text :=
  if children.isEmpty then some [] else renderList? children

def itemsWith? : List Entry -> Option Text
  | [] => some []
  | Entry.node heading children :: entries => do
      let below <- belowWith? renderList? children
      let others <- itemsWith? entries
      some ("<li>" ++ link heading ++ below ++ "</li>" ++ others)

end Items

/-- Renders a table if it takes no more than the given number of lists inside one
another. -/
def renderWithin? : Nat -> List Entry -> Option Text
  | 0, _ => none
  | n + 1, entries => do
      let items <- itemsWith? (renderWithin? n) entries
      some ("<ul>" ++ items ++ "</ul>")

theorem depthAll_pos {entries : List Entry} (h : entries.isEmpty = false) :
    0 < depthAll entries := by
  cases entries with
  | nil =>
      cases h
  | cons entry entries =>
      rcases entry with ⟨heading, children⟩
      rw [depthAll, Entry.depth]
      omega

section Bounds

variable {renderList? : List Entry -> Option Text} {n : Nat}
  (h : forall entries, renderList? entries =
    if max (depthAll entries) 1 ≤ n then some (render entries) else none)

include h

theorem belowWith?_eq (children : List Entry) :
    belowWith? renderList? children =
      if depthAll children ≤ n then some (below children) else none := by
  unfold belowWith? below
  cases hempty : children.isEmpty with
  | true =>
      have hnil : children = [] := List.isEmpty_iff.mp hempty
      simp [hnil, depthAll]
  | false =>
      have hpos : 1 ≤ depthAll children := depthAll_pos hempty
      simp [h, Nat.max_eq_left hpos]

theorem itemsWith?_eq (entries : List Entry) :
    itemsWith? renderList? entries =
      if depthAll entries ≤ n + 1 then some (renderItems entries) else none := by
  induction entries with
  | nil =>
      rfl
  | cons entry entries ih =>
      rcases entry with ⟨heading, children⟩
      rw [itemsWith?, belowWith?_eq h, ih, renderItems, renderEntry_node]
      simp only [depthAll, Entry.depth, Nat.max_le, Nat.add_le_add_iff_right]
      by_cases hbelow : depthAll children ≤ n
      · by_cases hrest : depthAll entries ≤ n + 1
        · simp [hbelow, hrest]
        · simp [hbelow, hrest]
      · simp [hbelow]

end Bounds

theorem renderWithin?_eq (n : Nat) (entries : List Entry) :
    renderWithin? n entries =
      if max (depthAll entries) 1 ≤ n then some (render entries) else none := by
  induction n generalizing entries with
  | zero =>
      have hnone : ¬ max (depthAll entries) 1 ≤ 0 := by
        omega
      rw [renderWithin?, if_neg hnone]
  | succ n ih =>
      have hfits : max (depthAll entries) 1 ≤ n + 1 ↔ depthAll entries ≤ n + 1 := by
        omega
      rw [renderWithin?, itemsWith?_eq ih]
      simp only [hfits]
      by_cases hdepth : depthAll entries ≤ n + 1
      · rw [if_pos hdepth, if_pos hdepth]
        rfl
      · rw [if_neg hdepth, if_neg hdepth]
        rfl

end Toc
end Folio
