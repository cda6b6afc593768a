import Mathlib.Logic.Relation
import Folio.Proofs.Toc.Place
import Folio.Proofs.Toc.Section

/-!
# Ancestors and level ranges

A heading is above another one in the forest of a document when it is linked to it
directly or through headings between the two.  This is so exactly when the latter stands
in the section of the former, where only kept headings count.  A forest of fewer levels
has therefore all ancestors that a forest of more levels has for its headings.  It has
others besides: a section that is left out because its level is too small no longer ends
the sections before it, which then take in its headings.
-/

namespace Folio
namespace Toc

/-!
# Ancestors in an outline
-/

/-- Whether the entry at the first place of a forest stands above that at the second one,
directly or not. -/
def IsAncestor (forest : List Entry) : Nat -> Nat -> Prop :=
  Relation.TransGen fun parent child => (some parent, child) ∈ linksAll none 0 forest

/-- Whether the heading at place `j` stands in the section of the heading at place `i`. -/
def InSection (headings : List Heading) (i j : Nat) : Prop :=
  i < j ∧ forall k, i < k -> k ≤ j -> levelAt headings i < levelAt headings k

theorem InSection.trans {headings : List Heading} {i j k : Nat} (hij : InSection headings i j)
    (hjk : InSection headings j k) : InSection headings i k := by
  refine ⟨Nat.lt_trans hij.1 hjk.1, ?_⟩
  intro m him hmk
  by_cases hmj : m ≤ j
  · exact hij.2 m him hmj
  · have hupper := hij.2 j hij.1 (Nat.le_refl j)
    have hlower := hjk.2 m (Nat.lt_of_not_le hmj) hmk
    exact Nat.lt_trans hupper hlower

theorem find?_reverse_range_eq_some_iff {p : Nat -> Bool} {n i : Nat} :
    (List.range n).reverse.find? p = some i ↔
      i < n ∧ p i = true ∧ forall k, i < k -> k < n -> p k = false := by
  induction n with
  | zero =>
      simp
  | succ n ih =>
      rw [List.range_succ, List.reverse_append, List.reverse_singleton, List.singleton_append]
      cases hn : p n with
      | true =>
          rw [List.find?_cons_of_pos hn]
          constructor
          · intro h
            injection h with h
            subst h
            exact ⟨Nat.lt_succ_self n, hn, fun k hnk hk => by omega⟩
          · rintro ⟨hlt, _, hnone⟩
            by_cases hi : i = n
            · rw [hi]
            · rw [hnone n (by omega) (Nat.lt_succ_self n)] at hn
              cases hn
      | false =>
          rw [List.find?_cons_of_neg (by simp [hn]), ih]
          constructor
          · rintro ⟨hlt, hi, hnone⟩
            refine ⟨Nat.lt_succ_of_lt hlt, hi, ?_⟩
            intro k hik hk
            by_cases hkn : k = n
            · rw [hkn, hn]
            · exact hnone k hik (by omega)
          · rintro ⟨hlt, hi, hnone⟩
            have hne : i ≠ n := by
              intro heq
              rw [heq, hn] at hi
              cases hi
            exact ⟨by omega, hi, fun k hik hk => hnone k hik (Nat.lt_succ_of_lt hk)⟩

theorem closestAbove_eq_some_iff {headings : List Heading} {i j : Nat} :
    closestAbove headings j = some i ↔
      i < j ∧ levelAt headings i < levelAt headings j ∧
        forall k, i < k -> k < j -> levelAt headings j ≤ levelAt headings k := by
  unfold closestAbove
  rw [find?_reverse_range_eq_some_iff]
  simp

theorem inSection_of_closestAbove {headings : List Heading} {i j : Nat}
    (h : closestAbove headings j = some i) : InSection headings i j := by
  rcases closestAbove_eq_some_iff.mp h with ⟨hlt, hlevel, hbetween⟩
  refine ⟨hlt, ?_⟩
  intro k hik hkj
  by_cases hk : k = j
  · rw [hk]
    exact hlevel
  · exact Nat.lt_of_lt_of_le hlevel (hbetween k hik (by omega))

theorem exists_closestAbove_of_inSection {headings : List Heading} {i j : Nat}
    (h : InSection headings i j) : exists m, closestAbove headings j = some m ∧ i ≤ m := by
  cases hclosest : closestAbove headings j with
  | none =>
      have hnone := List.find?_eq_none.mp hclosest i (by simpa using h.1)
      have hlevel := h.2 j h.1 (Nat.le_refl j)
      simp [hlevel] at hnone
  | some m =>
      refine ⟨m, rfl, ?_⟩
      rcases closestAbove_eq_some_iff.mp hclosest with ⟨_, _, hbetween⟩
      by_contra hlt
      have hle := hbetween i (Nat.lt_of_not_le hlt) h.1
      have hlevel := h.2 j h.1 (Nat.le_refl j)
      omega

theorem mem_linksAll_outline_iff {headings : List Heading} {i j : Nat} :
    (some i, j) ∈ linksAll none 0 (outline headings) ↔
      closestAbove headings j = some i ∧ j < headings.length := by
  rw [linksAll_outline]
  simp only [List.mem_map, List.mem_range, Nat.zero_add, Option.map_id', Option.or_none,
    Prod.mk.injEq]
  constructor
  · rintro ⟨k, hk, hclosest, rfl⟩
    exact ⟨hclosest, hk⟩
  · rintro ⟨hclosest, hj⟩
    exact ⟨j, hj, hclosest, rfl⟩

theorem isAncestor_outline_iff {headings : List Heading} {i j : Nat} :
    IsAncestor (outline headings) i j ↔ InSection headings i j ∧ j < headings.length := by
  constructor
  · intro h
    induction h with
    | single hlink =>
        rcases mem_linksAll_outline_iff.mp hlink with ⟨hclosest, hlength⟩
        exact ⟨inSection_of_closestAbove hclosest, hlength⟩
    | tail _ hlink ih =>
        rcases mem_linksAll_outline_iff.mp hlink with ⟨hclosest, hlength⟩
        exact ⟨ih.1.trans (inSection_of_closestAbove hclosest), hlength⟩
  · rintro ⟨hsection, hlength⟩
    induction j using Nat.strongRecOn with
    | ind j ih =>
        rcases exists_closestAbove_of_inSection hsection with ⟨m, hclosest, him⟩
        have hlink := mem_linksAll_outline_iff.mpr ⟨hclosest, hlength⟩
        have hmj := (closestAbove_eq_some_iff.mp hclosest).1
        by_cases heq : i = m
        · rw [← heq] at hlink
          exact Relation.TransGen.single hlink
        · have hmiddle : InSection headings i m :=
            ⟨by omega, fun k hik hkm => hsection.2 k hik (by omega)⟩
          exact Relation.TransGen.tail (ih m hmj hmiddle (by omega)) hlink

/-!
# Places in a document and in its forest
-/

/-- Whether the options keep the heading at a place of a document. -/
def KeptAt (options : Options) (headings : List Heading) (i : Nat) : Prop :=
  exists heading, headings[i]? = some heading ∧ options.keeps heading = true

/-- The place in the forest of a kept heading: the number of kept headings before it. -/
def placeOf (options : Options) (headings : List Heading) (i : Nat) : Nat :=
  ((headings.take i).filter options.keeps).length

section Places

variable {options : Options} {headings : List Heading} {i j : Nat}

theorem KeptAt.level (h : KeptAt options headings i) :
    options.minLevel ≤ levelAt headings i ∧ levelAt headings i ≤ options.maxLevel := by
  rcases h with ⟨heading, hheading, hkeeps⟩
  have hlevel : levelAt headings i = heading.level := by
    simp [levelAt, hheading]
  rw [hlevel]
  exact Options.keeps_iff.mp hkeeps

theorem keptAt_of_level (hlength : i < headings.length)
    (hmin : options.minLevel ≤ levelAt headings i)
    (hmax : levelAt headings i ≤ options.maxLevel) : KeptAt options headings i := by
  have hheading : headings[i]? = some headings[i] := List.getElem?_eq_getElem hlength
  have hlevel : levelAt headings i = headings[i].level := by
    simp [levelAt, hheading]
  rw [hlevel] at hmin hmax
  exact ⟨headings[i], hheading, Options.keeps_iff.mpr ⟨hmin, hmax⟩⟩

theorem KeptAt.lt_length (h : KeptAt options headings i) : i < headings.length := by
  rcases h with ⟨heading, hheading, _⟩
  exact (List.getElem?_eq_some_iff.mp hheading).1

theorem getElem?_filter_placeOf (h : KeptAt options headings i) :
    (headings.filter options.keeps)[placeOf options headings i]? = headings[i]? := by
  rcases h with ⟨heading, hheading, hkeeps⟩
  rcases List.getElem?_eq_some_iff.mp hheading with ⟨hlength, heq⟩
  have hcut : headings = headings.take i ++ heading :: headings.drop (i + 1) := by
    rw [← heq, List.getElem_cons_drop, List.take_append_drop]
  have hkept := congrArg (List.filter options.keeps) hcut
  rw [List.filter_append, List.filter_cons_of_pos hkeeps] at hkept
  rw [hkept, placeOf, List.getElem?_append_right (Nat.le_refl _), Nat.sub_self, hheading]
  rfl

theorem getElem?_preorderAll_placeOf (h : KeptAt options headings i) :
    (preorderAll (nest options headings))[placeOf options headings i]? = headings[i]? := by
  rw [preorderAll_nest]
  exact getElem?_filter_placeOf h

theorem levelAt_filter_placeOf (h : KeptAt options headings i) :
    levelAt (headings.filter options.keeps) (placeOf options headings i) =
      levelAt headings i := by
  rw [levelAt, levelAt, getElem?_filter_placeOf h]

theorem placeOf_lt_length (h : KeptAt options headings i) :
    placeOf options headings i < (headings.filter options.keeps).length := by
  have hplace := getElem?_filter_placeOf h
  rcases h with ⟨heading, hheading, _⟩
  rw [hheading] at hplace
  exact (List.getElem?_eq_some_iff.mp hplace).1

theorem placeOf_mono (h : i ≤ j) : placeOf options headings i ≤ placeOf options headings j :=
  ((List.take_sublist_take_left h).filter options.keeps).length_le

theorem placeOf_succ_of_keptAt (h : KeptAt options headings i) :
    placeOf options headings (i + 1) = placeOf options headings i + 1 := by
  rcases h with ⟨heading, hheading, hkeeps⟩
  rw [placeOf, List.take_add_one, hheading, List.filter_append, List.length_append]
  simp [placeOf, hkeeps]

theorem placeOf_succ_of_not_keptAt (h : ¬ KeptAt options headings i) :
    placeOf options headings (i + 1) = placeOf options headings i := by
  rw [placeOf, List.take_add_one, List.filter_append, List.length_append]
  cases hheading : headings[i]? with
  | none =>
      simp [placeOf]
  | some heading =>
      have hdropped : options.keeps heading = false := by
        by_contra hkeeps
        exact h ⟨heading, hheading, by simpa using hkeeps⟩
      simp [placeOf, hdropped]

theorem placeOf_lt (hi : KeptAt options headings i) (h : i < j) :
    placeOf options headings i < placeOf options headings j := by
  have hmono : placeOf options headings (i + 1) ≤ placeOf options headings j :=
    placeOf_mono (Nat.succ_le_of_lt h)
  rw [placeOf_succ_of_keptAt hi] at hmono
  exact hmono

theorem lt_of_placeOf_lt (h : placeOf options headings i < placeOf options headings j) :
    i < j := by
  by_contra hle
  exact absurd (placeOf_mono (Nat.le_of_not_lt hle)) (Nat.not_le_of_lt h)

theorem exists_keptAt_of_lt {place : Nat} (h : place < placeOf options headings j) :
    exists k, k < j ∧ KeptAt options headings k ∧ placeOf options headings k = place := by
  induction j with
  | zero =>
      simp [placeOf] at h
  | succ j ih =>
      by_cases hbefore : place < placeOf options headings j
      · rcases ih hbefore with ⟨k, hkj, hkept, hplace⟩
        exact ⟨k, Nat.lt_succ_of_lt hkj, hkept, hplace⟩
      · by_cases hkept : KeptAt options headings j
        · rw [placeOf_succ_of_keptAt hkept] at h
          exact ⟨j, Nat.lt_succ_self j, hkept, by omega⟩
        · rw [placeOf_succ_of_not_keptAt hkept] at h
          exact absurd h hbefore

theorem inSection_filter_iff (hi : KeptAt options headings i) (hj : KeptAt options headings j) :
    InSection (headings.filter options.keeps) (placeOf options headings i)
        (placeOf options headings j) ↔
      i < j ∧ forall k, i < k -> k ≤ j -> KeptAt options headings k ->
        levelAt headings i < levelAt headings k := by
  constructor
  · rintro ⟨hlt, hlevels⟩
    refine ⟨lt_of_placeOf_lt hlt, ?_⟩
    intro k hik hkj hk
    have hlevel := hlevels _ (placeOf_lt hi hik) (placeOf_mono hkj)
    rw [levelAt_filter_placeOf hi, levelAt_filter_placeOf hk] at hlevel
    exact hlevel
  · rintro ⟨hlt, hlevels⟩
    refine ⟨placeOf_lt hi hlt, ?_⟩
    intro place hplace hle
    have hfound : exists k, k ≤ j ∧ KeptAt options headings k ∧
        placeOf options headings k = place := by
      by_cases hlast : place = placeOf options headings j
      · exact ⟨j, Nat.le_refl j, hj, hlast.symm⟩
      · rcases exists_keptAt_of_lt (Nat.lt_of_le_of_ne hle hlast) with ⟨k, hkj, hk, heq⟩
        exact ⟨k, Nat.le_of_lt hkj, hk, heq⟩
    rcases hfound with ⟨k, hkj, hk, rfl⟩
    rw [levelAt_filter_placeOf hi, levelAt_filter_placeOf hk]
    exact hlevels k (lt_of_placeOf_lt hplace) hkj hk

end Places

/-!
# Ancestors in the forest of a document
-/

/-- Whether the options keep the headings at two places of a document, and in the forest
that they make the first stands above the second. -/
def AncestorIn (options : Options) (headings : List Heading) (i j : Nat) : Prop :=
  KeptAt options headings i ∧ KeptAt options headings j ∧
    IsAncestor (nest options headings) (placeOf options headings i) (placeOf options headings j)

theorem ancestorIn_iff {options : Options} {headings : List Heading} {i j : Nat} :
    AncestorIn options headings i j ↔
      KeptAt options headings i ∧ KeptAt options headings j ∧ i < j ∧
        forall k, i < k -> k ≤ j -> KeptAt options headings k ->
          levelAt headings i < levelAt headings k := by
  unfold AncestorIn
  rw [nest_eq_outline, isAncestor_outline_iff]
  constructor
  · rintro ⟨hi, hj, hsection, _⟩
    exact ⟨hi, hj, (inSection_filter_iff hi hj).mp hsection⟩
  · rintro ⟨hi, hj, hsection⟩
    exact ⟨hi, hj, (inSection_filter_iff hi hj).mpr hsection, placeOf_lt_length hj⟩

structure Options.Narrows (narrow wide : Options) : Prop where
  minLevel : wide.minLevel ≤ narrow.minLevel
  maxLevel : narrow.maxLevel ≤ wide.maxLevel

section Narrowing

variable {narrow wide : Options} {headings : List Heading} {i j : Nat}

theorem KeptAt.widen (h : narrow.Narrows wide) (hi : KeptAt narrow headings i) :
    KeptAt wide headings i :=
  keptAt_of_level hi.lt_length (Nat.le_trans h.minLevel hi.level.1)
    (Nat.le_trans hi.level.2 h.maxLevel)

theorem AncestorIn.of_wider (h : narrow.Narrows wide) (hwide : AncestorIn wide headings i j)
    (hi : KeptAt narrow headings i) (hj : KeptAt narrow headings j) :
    AncestorIn narrow headings i j := by
  rcases ancestorIn_iff.mp hwide with ⟨_, _, hlt, hlevels⟩
  exact ancestorIn_iff.mpr ⟨hi, hj, hlt, fun k hik hkj hk => hlevels k hik hkj (hk.widen h)⟩

theorem AncestorIn.widen_iff (h : narrow.Narrows wide) (hnarrow : AncestorIn narrow headings i j) :
    AncestorIn wide headings i j ↔
      forall k, i < k -> k < j -> KeptAt wide headings k ->
        narrow.minLevel ≤ levelAt headings k := by
  rcases ancestorIn_iff.mp hnarrow with ⟨hi, hj, hlt, hlevels⟩
  constructor
  · intro hwide k hik hkj hk
    have hlevel := (ancestorIn_iff.mp hwide).2.2.2 k hik (Nat.le_of_lt hkj) hk
    exact Nat.le_trans hi.level.1 (Nat.le_of_lt hlevel)
  · intro hbetween
    refine ancestorIn_iff.mpr ⟨hi.widen h, hj.widen h, hlt, ?_⟩
    intro k hik hkj hk
    by_cases hmax : levelAt headings k ≤ narrow.maxLevel
    · have hmin : narrow.minLevel ≤ levelAt headings k := by
        by_cases hlast : k = j
        · rw [hlast]
          exact hj.level.1
        · exact hbetween k hik (by omega) hk
      exact hlevels k hik hkj (keptAt_of_level hk.lt_length hmin hmax)
    · have hle := hi.level.2
      omega

end Narrowing

/-!
# The forest of all levels
-/

/-- Options that keep every level a byte can hold. -/
def Options.unrestricted : Options where
  minLevel := 0
  maxLevel := 255
  marker := Options.default.marker

theorem Options.narrows_unrestricted {options : Options} (h : options.maxLevel ≤ 255) :
    options.Narrows Options.unrestricted where
  minLevel := Nat.zero_le _
  maxLevel := h

/-- A heading that stands above another in the forest of some levels stands above it in
the forest of all levels exactly when no heading between the two has a level below the
range.  What stands above a heading in the forest of all levels does so in that of some
levels, if both headings are kept. -/
theorem ancestorIn_unrestricted {options : Options} (hbyte : options.maxLevel ≤ 255)
    (headings : List Heading) (i j : Nat) :
    (AncestorIn options headings i j ->
      (AncestorIn Options.unrestricted headings i j ↔
        forall k, i < k -> k < j -> options.minLevel ≤ levelAt headings k)) ∧
    (AncestorIn Options.unrestricted headings i j ->
      KeptAt options headings i -> KeptAt options headings j ->
        AncestorIn options headings i j) := by
  have hnarrows := Options.narrows_unrestricted hbyte
  constructor
  · intro hancestor
    rw [hancestor.widen_iff hnarrows]
    constructor
    · intro hbetween k hik hkj
      by_cases hkept : KeptAt Options.unrestricted headings k
      · exact hbetween k hik hkj hkept
      · -- Only a level that no byte can hold is left out of the forest of all levels.
        have hlarge : ¬ levelAt headings k ≤ 255 := by
          intro hle
          have hlength : k < headings.length := Nat.lt_trans hkj hancestor.2.1.lt_length
          exact hkept (keptAt_of_level hlength (Nat.zero_le _) hle)
        have hrange := hancestor.1.level
        omega
    · intro hbetween k hik hkj _
      exact hbetween k hik hkj
  · intro hancestor hi hj
    exact hancestor.of_wider hnarrows hi hj

/-- The heading `b` is left out because its level is too great, and `a` stays above `c`. -/
theorem ancestorIn_unrestricted_of_deep_heading :
    let options : Options := { minLevel := 2, maxLevel := 3, marker := "[TOC]" }
    let headings : List Heading := [⟨2, "a", "A"⟩, ⟨4, "b", "B"⟩, ⟨3, "c", "C"⟩]
    options.maxLevel ≤ 255 ∧ AncestorIn options headings 0 2 ∧
      AncestorIn Options.unrestricted headings 0 2 := by
  intro options headings
  have hbyte : options.maxLevel ≤ 255 := by decide
  have hancestor : AncestorIn options headings 0 2 := by
    refine ancestorIn_iff.mpr ⟨⟨_, rfl, rfl⟩, ⟨_, rfl, rfl⟩, by decide, ?_⟩
    intro k hk hle _
    have hcases : k = 1 ∨ k = 2 := by omega
    rcases hcases with rfl | rfl <;> decide
  refine ⟨hbyte, hancestor, ?_⟩
  apply ((ancestorIn_unrestricted hbyte headings 0 2).1 hancestor).mpr
  intro k hk hlt
  have hone : k = 1 := by omega
  rw [hone]
  decide

/-- Between two headings stands one that is left out because its level is too small: the
first heading is above the last one only as long as it is left out. -/
theorem ancestorIn_of_left_out_section :
    let options : Options := { minLevel := 2, maxLevel := 6, marker := "[TOC]" }
    let headings : List Heading := [⟨2, "a", "A"⟩, ⟨1, "b", "B"⟩, ⟨3, "c", "C"⟩]
    AncestorIn options headings 0 2 ∧ ¬ AncestorIn Options.unrestricted headings 0 2 := by
  intro options headings
  constructor
  · refine ancestorIn_iff.mpr ⟨⟨_, rfl, rfl⟩, ⟨_, rfl, rfl⟩, by decide, ?_⟩
    intro k hk hle hkept
    have hmin := hkept.level.1
    have hcases : k = 1 ∨ k = 2 := by omega
    rcases hcases with rfl | rfl
    · exact absurd hmin (by decide)
    · decide
  · intro hancestor
    have hlevel := (ancestorIn_iff.mp hancestor).2.2.2 1 (by decide) (by decide) ⟨_, rfl, rfl⟩
    exact absurd hlevel (by decide)

end Toc
end Folio
