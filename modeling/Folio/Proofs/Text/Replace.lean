import Folio.Text.Replace

/-!
# Literal replacement and concatenation

Replacement in two texts side by side is replacement in each of them, unless an
occurrence of the sought text crosses the border between the two.
-/

namespace Folio
namespace Text

theorem startsWith_iff {lead s : Text} : startsWith lead s = true ↔ lead <+: s := by
  unfold startsWith
  constructor
  · intro h
    rcases Option.isSome_iff_exists.mp h with ⟨rest, hrest⟩
    exact ⟨rest, (after?_eq_some_iff.mp hrest).symm⟩
  · rintro ⟨rest, rfl⟩
    rw [after?_append]
    rfl

/-!
# One step of replacement
-/

section Steps

variable {needle : Text} (new : Text)

theorem replaceAll_nil (needle : Text) : replaceAll needle new [] = [] := by
  rw [replaceAll]

theorem replaceAll_cons_of_not_begins {c : Char} {s : Text} (h : ¬ needle <+: c :: s) :
    replaceAll needle new (c :: s) = c :: replaceAll needle new s := by
  rw [replaceAll, if_neg]
  intro hstarts
  exact h (startsWith_iff.mp hstarts.2)

theorem replaceAll_occurrence (hneedle : needle ≠ []) (s : Text) :
    replaceAll needle new (needle ++ s) = new ++ replaceAll needle new s := by
  cases needle with
  | nil =>
      exact absurd rfl hneedle
  | cons c needle =>
      have hstarts : startsWith (c :: needle) (c :: (needle ++ s)) = true :=
        startsWith_iff.mpr (List.prefix_append (c :: needle) s)
      rw [List.cons_append, replaceAll, if_pos ⟨hneedle, hstarts⟩]
      simp

end Steps

/-!
# Borders
-/

/-- Whether no occurrence of `needle` begins in `l` and ends in `r`. -/
def Separate (needle l r : Text) : Prop :=
  forall u v, l = u ++ v -> v ≠ [] -> needle <+: v ++ r -> needle <+: v

theorem Separate.of_rests {needle r : Text}
    (h : forall begun rest, needle = begun ++ rest -> begun ≠ [] -> rest ≠ [] -> ¬ rest <+: r)
    (l : Text) : Separate needle l r := by
  rintro u v _ hne ⟨behind, hbehind⟩
  rcases List.append_eq_append_iff.mp hbehind with ⟨more, hv, _⟩ | ⟨rest, hneedle, hr⟩
  · exact ⟨more, hv.symm⟩
  · by_cases hrest : rest = []
    · exact ⟨[], by rw [hneedle, hrest, List.append_nil, List.append_nil]⟩
    · exact absurd ⟨behind, hr.symm⟩ (h v rest hneedle hne hrest)

theorem Separate.of_not_mem {needle : Text} {c : Char} (hc : c ∉ needle) (l r : Text) :
    Separate needle l (c :: r) := by
  apply Separate.of_rests
  rintro begun rest hneedle _ hne ⟨behind, hbehind⟩
  cases rest with
  | nil =>
      exact hne rfl
  | cons d rest =>
      injection hbehind with hd _
      exact hc (by simp [hneedle, hd])

theorem Separate.of_append {needle u v r : Text} (h : Separate needle (u ++ v) r) :
    Separate needle v r := by
  intro u' v' hv hne hprefix
  exact h (u ++ u') v' (by rw [hv, List.append_assoc]) hne hprefix

theorem replaceAll_append {needle : Text} (hneedle : needle ≠ []) (new : Text) {l r : Text}
    (h : Separate needle l r) :
    replaceAll needle new (l ++ r) = replaceAll needle new l ++ replaceAll needle new r := by
  induction hlength : l.length using Nat.strongRecOn generalizing l with
  | ind n ih =>
      cases l with
      | nil =>
          rw [replaceAll_nil]
          rfl
      | cons c l =>
          by_cases hprefix : needle <+: c :: l
          · rcases hprefix with ⟨rest, hrest⟩
            have hpos : 0 < needle.length := List.length_pos_iff.mpr hneedle
            have hlt : rest.length < n := by
              rw [← hlength, ← hrest, List.length_append]
              omega
            rw [← hrest] at h ⊢
            rw [List.append_assoc, replaceAll_occurrence new hneedle,
              replaceAll_occurrence new hneedle, ih rest.length hlt h.of_append rfl,
              List.append_assoc]
          · have hnot : ¬ needle <+: c :: (l ++ r) := by
              intro hlong
              exact hprefix (h [] (c :: l) rfl (List.cons_ne_nil c l) hlong)
            have hlt : l.length < n := by
              rw [← hlength, List.length_cons]
              omega
            have htail : Separate needle l r := Separate.of_append (u := [c]) h
            rw [List.cons_append, replaceAll_cons_of_not_begins new hnot,
              replaceAll_cons_of_not_begins new hprefix, ih l.length hlt htail rfl,
              List.cons_append]

theorem replaceAll_eq_self {needle : Text} (new : Text) {s : Text}
    (h : forall u v, s = u ++ v -> v ≠ [] -> ¬ needle <+: v) : replaceAll needle new s = s := by
  induction s with
  | nil =>
      exact replaceAll_nil new needle
  | cons c s ih =>
      rw [replaceAll_cons_of_not_begins new (h [] (c :: s) rfl (List.cons_ne_nil c s)), ih]
      intro u v hs hne
      exact h (c :: u) v (by rw [hs, List.cons_append]) hne

theorem replaceAll_of_not_infix {needle : Text} (new : Text) {s : Text} (h : ¬ needle <:+: s) :
    replaceAll needle new s = s := by
  apply replaceAll_eq_self
  rintro u v rfl _ hbegins
  exact h (hbegins.isInfix.trans (List.suffix_append u v).isInfix)

theorem Separate.infix_append {needle l r : Text} (h : Separate needle l r)
    (hoccurs : needle <:+: l ++ r) : needle <:+: l ∨ needle <:+: r := by
  rcases hoccurs with ⟨u, w, hcut⟩
  rw [List.append_assoc] at hcut
  rcases List.append_eq_append_iff.mp hcut with ⟨v, hl, hneedle⟩ | ⟨v, _, hr⟩
  · by_cases hv : v = []
    · rw [hv, List.nil_append] at hneedle
      exact Or.inr ⟨[], w, hneedle⟩
    · have hbegins : needle <+: v := h u v hl hv ⟨w, hneedle⟩
      rw [hl]
      exact Or.inl (hbegins.isInfix.trans (List.suffix_append u v).isInfix)
  · exact Or.inr ⟨v, w, by rw [hr, List.append_assoc]⟩

/-!
# Texts without occurrences
-/

/-- Whether no occurrence of `needle` begins in a text, whatever follows the text. -/
def Avoids (needle s : Text) : Prop :=
  forall u v t, s = u ++ v -> v ≠ [] -> ¬ needle <+: v ++ t

namespace Avoids

variable {needle : Text}

theorem cons {c : Char} {s : Text} (hfront : forall t, ¬ needle <+: c :: (s ++ t))
    (hs : Avoids needle s) : Avoids needle (c :: s) := by
  intro u v t hcut hne
  cases u with
  | nil =>
      rw [List.nil_append] at hcut
      rw [← hcut]
      exact hfront t
  | cons d u =>
      injection hcut with _ hcut
      exact hs u v t hcut hne

theorem append {l r : Text} (hl : Avoids needle l) (hr : Avoids needle r) :
    Avoids needle (l ++ r) := by
  intro u v t hcut hne hprefix
  rcases List.append_eq_append_iff.mp hcut with ⟨more, _, hright⟩ | ⟨more, hleft, hv⟩
  · exact hr more v t hright hne hprefix
  · by_cases hmore : more = []
    · rw [hmore, List.nil_append] at hv
      exact hr [] v t hv.symm hne hprefix
    · rw [hv, List.append_assoc] at hprefix
      exact hl u more (r ++ t) hleft hmore hprefix

theorem replaceAll_append {s : Text} (h : Avoids needle s) (new t : Text) :
    replaceAll needle new (s ++ t) = s ++ replaceAll needle new t := by
  induction s with
  | nil =>
      rfl
  | cons c s ih =>
      have hfront : ¬ needle <+: c :: (s ++ t) := h [] (c :: s) t rfl (List.cons_ne_nil c s)
      have htail : Avoids needle s := by
        intro u v t' hcut hne
        exact h (c :: u) v t' (by rw [hcut, List.cons_append]) hne
      rw [List.cons_append, replaceAll_cons_of_not_begins new hfront, ih htail, List.cons_append]

end Avoids

end Text
end Folio
