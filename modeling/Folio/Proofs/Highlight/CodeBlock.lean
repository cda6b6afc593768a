import Folio.Highlight
import Folio.Proofs.Text.Tag

/-!
# Code blocks of a page

The reader of code blocks takes a block off the front of a text exactly when the
text begins with a written block.  Replacing the blocks of a page goes on behind
each block it has found, and a character further where there is none.
-/

namespace Folio
namespace Highlight
namespace CodeBlock

/-!
# Written blocks
-/

/-- A block can be read back when its body has no tags and its label, if it has
one, is not empty and has no quote. -/
structure Legal (block : CodeBlock) : Prop where
  body : '<' ∉ block.body
  label : forall label, block.label = some label -> label ≠ [] ∧ '"' ∉ label

theorem not_mem_takeWhile_ne (c : Char) (s : Text) : c ∉ s.takeWhile fun d => d ≠ c := by
  intro h
  have hne := List.mem_takeWhile_imp h
  simp at hne

theorem body?_eq_some_iff {label : Option Text} {s rest : Text} {block : CodeBlock} :
    body? label s = some (block, rest) ↔
      block.label = label ∧ '<' ∉ block.body ∧ s = block.body ++ ending ++ rest := by
  unfold body?
  constructor
  · intro h
    cases hbehind : Text.after? ending (s.dropWhile fun c => c ≠ '<') with
    | none =>
        rw [hbehind] at h
        cases h
    | some behind =>
        rw [hbehind] at h
        injection h with hpair
        injection hpair with hblock hrest
        rw [← hblock, ← hrest]
        refine ⟨rfl, not_mem_takeWhile_ne '<' s, ?_⟩
        rw [List.append_assoc, ← Text.after?_eq_some_iff.mp hbehind]
        exact List.takeWhile_append_dropWhile.symm
  · rintro ⟨hlabel, hbody, rfl⟩
    have hending : ending = '<' :: "/code></pre>".toList := rfl
    have hbehind : (block.body ++ ending ++ rest).dropWhile (fun c => c ≠ '<') =
        ending ++ rest := by
      rw [List.append_assoc, hending, List.cons_append]
      exact Text.dropWhile_ne_append hbody _
    have htaken : (block.body ++ ending ++ rest).takeWhile (fun c => c ≠ '<') = block.body := by
      rw [List.append_assoc, hending, List.cons_append]
      exact Text.takeWhile_ne_append hbody _
    rw [hbehind, Text.after?_append, htaken, ← hlabel]

/-- The part of a block behind its opening. -/
def inside (block : CodeBlock) : Text :=
  labelMarkup block.label ++ '>' :: block.body ++ ending

theorem inside_of_label {block : CodeBlock} {label : Text} (h : block.label = some label) :
    block.inside = labelStart ++ (label ++ '"' :: '>' :: (block.body ++ ending)) := by
  have hmarkup : labelMarkup block.label = labelStart ++ label ++ ['"'] := by
    rw [h]
    rfl
  simp [inside, hmarkup]

theorem inside_of_none {block : CodeBlock} (h : block.label = none) :
    block.inside = '>' :: (block.body ++ ending) := by
  rw [inside, h]
  rfl

theorem rest?_sound {s rest : Text} {block : CodeBlock} (h : rest? s = some (block, rest)) :
    block.Legal ∧ s = block.inside ++ rest := by
  unfold rest? at h
  cases hlabelled : Text.after? labelStart s with
  | none =>
      rw [hlabelled] at h
      cases s with
      | nil =>
          cases h
      | cons c s =>
          by_cases hc : c = '>'
          · subst hc
            rcases body?_eq_some_iff.mp h with ⟨hnone, hbody, hs⟩
            refine ⟨⟨hbody, ?_⟩, ?_⟩
            · intro label hlabel
              rw [hnone] at hlabel
              cases hlabel
            · rw [inside_of_none hnone, hs, List.cons_append]
          · simp [hc] at h
  | some behind =>
      rw [hlabelled] at h
      have hs := Text.after?_eq_some_iff.mp hlabelled
      have hquote := not_mem_takeWhile_ne '"' behind
      have hcut : (behind.takeWhile fun c => c ≠ '"') ++ (behind.dropWhile fun c => c ≠ '"') =
          behind := List.takeWhile_append_dropWhile
      dsimp only at h
      generalize (behind.takeWhile fun c => decide (c ≠ '"')) = label at h hquote hcut
      generalize (behind.dropWhile fun c => decide (c ≠ '"')) = tail at h hcut
      by_cases hempty : label = []
      · rw [if_pos hempty] at h
        cases h
      · rw [if_neg hempty] at h
        cases htail : Text.after? "\">".toList tail with
        | none =>
            rw [htail] at h
            cases h
        | some inner =>
            rw [htail] at h
            rcases body?_eq_some_iff.mp h with ⟨hlabel, hbody, hinner⟩
            refine ⟨⟨hbody, ?_⟩, ?_⟩
            · intro label' hlabel'
              rw [hlabel] at hlabel'
              injection hlabel' with heq
              rw [← heq]
              exact ⟨hempty, hquote⟩
            · rw [inside_of_label hlabel, hs, ← hcut, Text.after?_eq_some_iff.mp htail, hinner]
              simp

theorem rest?_labelMarkup {label : Option Text}
    (h : forall written, label = some written -> written ≠ [] ∧ '"' ∉ written) (s : Text) :
    rest? (labelMarkup label ++ '>' :: s) = body? label s := by
  unfold rest?
  cases label with
  | none =>
      have hunlabelled : Text.after? labelStart (labelMarkup none ++ '>' :: s) = none := rfl
      rw [hunlabelled]
      rfl
  | some written =>
      rcases h written rfl with ⟨hne, hquote⟩
      have hmarkup : labelMarkup (some written) ++ '>' :: s =
          labelStart ++ (written ++ '"' :: '>' :: s) := by
        have hlabel : labelMarkup (some written) = labelStart ++ written ++ ['"'] := rfl
        simp [hlabel]
      have hbehind : Text.after? "\">".toList ('"' :: '>' :: s) = some s := rfl
      rw [hmarkup, Text.after?_append]
      dsimp only
      rw [Text.takeWhile_ne_append hquote, Text.dropWhile_ne_append hquote, if_neg hne, hbehind]

theorem rest?_complete {block : CodeBlock} (h : block.Legal) (rest : Text) :
    rest? (block.inside ++ rest) = some (block, rest) := by
  have hinside : block.inside ++ rest =
      labelMarkup block.label ++ '>' :: (block.body ++ ending ++ rest) := by
    simp [inside]
  rw [hinside, rest?_labelMarkup h.label]
  exact body?_eq_some_iff.mpr ⟨rfl, h.body, rfl⟩

theorem front?_eq_some_iff {s rest : Text} {block : CodeBlock} :
    front? s = some (block, rest) ↔ block.Legal ∧ s = opening ++ block.inside ++ rest := by
  unfold front?
  constructor
  · intro h
    cases hopening : Text.after? opening s with
    | none =>
        rw [hopening] at h
        cases h
    | some behind =>
        rw [hopening] at h
        rcases rest?_sound h with ⟨hlegal, hbehind⟩
        refine ⟨hlegal, ?_⟩
        rw [Text.after?_eq_some_iff.mp hopening, hbehind, List.append_assoc]
  · rintro ⟨hlegal, rfl⟩
    rw [List.append_assoc, Text.after?_append]
    exact rest?_complete hlegal rest

/-!
# Replacement

The fuel of a replacement is the length of the page, and more of it changes
nothing.
-/

theorem length_lt_of_front?_eq_some {s rest : Text} {block : CodeBlock}
    (h : front? s = some (block, rest)) : rest.length < s.length := by
  rcases front?_eq_some_iff.mp h with ⟨_, rfl⟩
  have hopening : 0 < opening.length := Nat.zero_lt_succ 9
  rw [List.length_append, List.length_append]
  omega

theorem replaceWithin_eq_of_le (f : CodeBlock -> Text) {m n : Nat} {s : Text}
    (hm : s.length ≤ m) (hn : s.length ≤ n) : replaceWithin f m s = replaceWithin f n s := by
  induction m generalizing n s with
  | zero =>
      have hs : s = [] := List.length_eq_zero_iff.mp (Nat.le_zero.mp hm)
      subst hs
      cases n <;> rfl
  | succ m ih =>
      cases s with
      | nil =>
          cases n <;> rfl
      | cons c s =>
          cases n with
          | zero =>
              simp at hn
          | succ n =>
              rw [List.length_cons] at hm hn
              rw [replaceWithin, replaceWithin]
              cases hfront : front? (c :: s) with
              | none =>
                  exact congrArg (List.cons c)
                    (ih (Nat.le_of_succ_le_succ hm) (Nat.le_of_succ_le_succ hn))
              | some found =>
                  have hlt : found.2.length < (c :: s).length := length_lt_of_front?_eq_some hfront
                  rw [List.length_cons] at hlt
                  exact congrArg (f found.1 ++ ·) (ih (by omega) (by omega))

theorem replaceAll_block (f : CodeBlock -> Text) {s rest : Text} {block : CodeBlock}
    (h : front? s = some (block, rest)) : replaceAll f s = f block ++ replaceAll f rest := by
  have hlt := length_lt_of_front?_eq_some h
  cases s with
  | nil =>
      simp at hlt
  | cons c s =>
      rw [replaceAll, List.length_cons, replaceWithin, h]
      rw [List.length_cons] at hlt
      exact congrArg (f block ++ ·)
        (replaceWithin_eq_of_le f (Nat.le_of_lt_succ hlt) (Nat.le_refl rest.length))

theorem replaceAll_cons (f : CodeBlock -> Text) {c : Char} {s : Text}
    (h : front? (c :: s) = none) : replaceAll f (c :: s) = c :: replaceAll f s := by
  rw [replaceAll, List.length_cons, replaceWithin, h]
  rfl

theorem replaceAll_append_of_free (f : CodeBlock -> Text) {s : Text} (t : Text)
    (h : forall u v, s = u ++ v -> v ≠ [] -> front? (v ++ t) = none) :
    replaceAll f (s ++ t) = s ++ replaceAll f t := by
  induction s with
  | nil =>
      rfl
  | cons c s ih =>
      have hfront : front? (c :: (s ++ t)) = none := h [] (c :: s) rfl (List.cons_ne_nil c s)
      have htail : forall u v, s = u ++ v -> v ≠ [] -> front? (v ++ t) = none := by
        intro u v hs hne
        exact h (c :: u) v (by rw [hs, List.cons_append]) hne
      rw [List.cons_append, replaceAll_cons f hfront, ih htail, List.cons_append]

end CodeBlock
end Highlight
end Folio
