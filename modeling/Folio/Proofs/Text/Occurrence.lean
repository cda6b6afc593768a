import Mathlib.Data.List.Infix
import Folio.Proofs.Text.Replace

/-!
# Occurrences after a replacement

The occurrences of a text cut another one into the parts between them, and replacement joins
these parts with the new text.  When no occurrence begins in the new text, and none that
begins before it ends in it, then no occurrence is left, and replacing once more changes
nothing.
-/

namespace Folio
namespace Text

/-!
# Joined parts
-/

theorem join_cons_cons (sep part next : Text) (parts : List Text) :
    join sep (part :: next :: parts) = part ++ (sep ++ join sep (next :: parts)) := by
  rw [join, List.append_assoc]
  exact List.cons_ne_nil next parts

theorem join_cons_char (sep : Text) (c : Char) (part : Text) (parts : List Text) :
    join sep ((c :: part) :: parts) = c :: join sep (part :: parts) := by
  cases parts with
  | nil =>
      rfl
  | cons next parts =>
      rw [join_cons_cons, join_cons_cons, List.cons_append]

theorem prefix_join (sep part : Text) (parts : List Text) : part <+: join sep (part :: parts) := by
  cases parts with
  | nil =>
      exact List.prefix_refl part
  | cons next parts =>
      rw [join_cons_cons]
      exact List.prefix_append _ _

/-!
# Cutting at the occurrences
-/

/-- Whether a text is cut into the given parts at occurrences of the sought one, so that none
is left in a part and replacement joins the parts with the new text. -/
structure CutAt (needle s : Text) (kept : List Text) : Prop where
  source : s = join needle kept
  free : forall part, part ∈ kept -> ¬ needle <:+: part
  replaced : forall new, replaceAll needle new s = join new kept

namespace CutAt

variable {needle s first : Text} {rest : List Text}

theorem nil (hneedle : needle ≠ []) : CutAt needle [] [[]] where
  source := rfl
  free := by
    intro part hpart hoccurs
    rw [List.mem_singleton.mp hpart] at hoccurs
    exact hneedle (List.infix_nil.mp hoccurs)
  replaced := fun new => replaceAll_nil new needle

theorem occurrence (hneedle : needle ≠ []) (h : CutAt needle s (first :: rest)) :
    CutAt needle (needle ++ s) ([] :: first :: rest) where
  source := by
    rw [join_cons_cons, ← h.source, List.nil_append]
  free := by
    refine List.forall_mem_cons.mpr ⟨?_, h.free⟩
    intro hoccurs
    exact hneedle (List.infix_nil.mp hoccurs)
  replaced := by
    intro new
    rw [replaceAll_occurrence new hneedle, join_cons_cons, h.replaced, List.nil_append]

theorem char {c : Char} (hfront : ¬ needle <+: c :: s) (h : CutAt needle s (first :: rest)) :
    CutAt needle (c :: s) ((c :: first) :: rest) where
  source := by
    rw [join_cons_char, ← h.source]
  free := by
    rcases List.forall_mem_cons.mp h.free with ⟨hfirst, hrest⟩
    refine List.forall_mem_cons.mpr ⟨?_, hrest⟩
    intro hoccurs
    rcases List.infix_cons_iff.mp hoccurs with hbegins | hbehind
    · have hkept : c :: first <+: c :: s := by
        rw [h.source]
        exact List.cons_prefix_cons.mpr ⟨rfl, prefix_join needle first rest⟩
      exact hfront (hbegins.trans hkept)
    · exact hfirst hbehind
  replaced := by
    intro new
    rw [replaceAll_cons_of_not_begins new hfront, join_cons_char, h.replaced]

end CutAt

theorem exists_cutAt {needle : Text} (hneedle : needle ≠ []) (s : Text) :
    exists first rest, CutAt needle s (first :: rest) := by
  induction hlength : s.length using Nat.strongRecOn generalizing s with
  | ind n ih =>
      cases s with
      | nil =>
          exact ⟨[], [], CutAt.nil hneedle⟩
      | cons c s =>
          by_cases hfront : needle <+: c :: s
          · rcases hfront with ⟨behind, hbehind⟩
            have hpos : 0 < needle.length := List.length_pos_iff.mpr hneedle
            have hlt : behind.length < n := by
              rw [← hlength, ← hbehind, List.length_append]
              omega
            rcases ih behind.length hlt behind rfl with ⟨first, rest, hcut⟩
            rw [← hbehind]
            exact ⟨[], first :: rest, hcut.occurrence hneedle⟩
          · have hlt : s.length < n := by
              rw [← hlength, List.length_cons]
              omega
            rcases ih s.length hlt s rfl with ⟨first, rest, hcut⟩
            exact ⟨c :: first, rest, hcut.char hfront⟩

/-!
# Texts in which no occurrence begins
-/

namespace Avoids

variable {needle : Text}

theorem nil (needle : Text) : Avoids needle [] := by
  intro u v t hcut hne
  exact absurd (List.append_eq_nil_iff.mp hcut.symm).2 hne

theorem of_not_mem {c : Char} {s : Text} (h : c ∉ s) (z : Text) : Avoids (c :: z) s := by
  rintro u v t hcut hne ⟨rest, hrest⟩
  cases v with
  | nil =>
      exact hne rfl
  | cons d v =>
      injection hrest with hd _
      exact h (by simp [hcut, hd])

theorem of_not_infix {c : Char} {s : Text} (hc : c ∉ needle) (h : ¬ needle <:+: s) :
    Avoids needle (s ++ [c]) := by
  intro u v t hcut hne hbegins
  rcases List.eq_nil_or_concat' v with rfl | ⟨w, d, rfl⟩
  · exact hne rfl
  rw [← List.append_assoc] at hcut
  rcases List.append_inj' hcut rfl with ⟨rfl, hlast⟩
  injection hlast with hd _
  rw [← hd, List.append_assoc, List.singleton_append] at hbegins
  by_cases hw : w = []
  · rcases hbegins with ⟨rest, hrest⟩
    rw [hw, List.nil_append] at hrest
    cases needle with
    | nil =>
        exact h List.nil_infix
    | cons e needle =>
        injection hrest with he _
        exact hc (by simp [he])
  · have hinside := Separate.of_not_mem hc (u ++ w) t u w rfl hw hbegins
    exact h (hinside.isInfix.trans (List.suffix_append u w).isInfix)

theorem separate {l : Text} (h : Avoids needle l) (r : Text) : Separate needle l r := by
  intro u v hcut hne hbegins
  exact absurd hbegins (h u v r hcut hne)

theorem not_infix {s : Text} (hneedle : needle ≠ []) (h : Avoids needle s) : ¬ needle <:+: s := by
  rintro ⟨u, w, hcut⟩
  have hne : needle ++ w ≠ [] := List.append_ne_nil_of_left_ne_nil hneedle w
  apply h u (needle ++ w) [] (by rw [← hcut, List.append_assoc]) hne
  rw [List.append_assoc]
  exact List.prefix_append needle _

end Avoids

/-!
# What replacement leaves
-/

section Replacement

variable {needle new : Text} (hneedle : needle ≠ []) (hnew : Avoids needle new)
  (hborder : forall l r, Separate needle l (new ++ r))

include hneedle hnew hborder

theorem not_infix_join {parts : List Text} (h : forall part, part ∈ parts -> ¬ needle <:+: part) :
    ¬ needle <:+: join new parts := by
  induction parts using join.induct with
  | case1 =>
      intro hoccurs
      exact hneedle (List.infix_nil.mp hoccurs)
  | case2 part =>
      exact h part List.mem_cons_self
  | case3 part parts hne ih =>
      rcases List.forall_mem_cons.mp h with ⟨hpart, hparts⟩
      rw [join, List.append_assoc]
      · intro hoccurs
        rcases (hborder part _).infix_append hoccurs with hfirst | hrest
        · exact hpart hfirst
        · rcases (hnew.separate _).infix_append hrest with hinside | hbehind
          · exact hnew.not_infix hneedle hinside
          · exact ih hparts hbehind
      · exact hne

theorem not_infix_replaceAll (s : Text) : ¬ needle <:+: replaceAll needle new s := by
  rcases exists_cutAt hneedle s with ⟨first, rest, hcut⟩
  rw [hcut.replaced]
  exact not_infix_join hneedle hnew hborder hcut.free

end Replacement

end Text
end Folio
