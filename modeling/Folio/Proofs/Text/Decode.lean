import Folio.Text.Decode
import Folio.Text.Escape

/-!
# Reading escaped text

Reading the references of escaped text gives the text back: every reference that an
escaper writes is read as the character that it was written for.
-/

namespace Folio
namespace Text

/-!
# Code
-/

theorem decodeWithin_nil (fuel : Nat) : decodeWithin fuel [] = [] := by
  cases fuel <;> rfl

theorem decodeWithin_markupEscape (fuel : Nat) (c : Char) (rest : Text) :
    decodeWithin (fuel + 1) (markupEscape c ++ rest) = c :: decodeWithin fuel rest := by
  unfold markupEscape
  split
  · rfl
  · unfold nameEscape
    split
    · rfl
    · rfl
    · rfl
    · rename_i hne _ _
      rw [List.cons_append, List.nil_append, decodeWithin]
      intro heq
      exact hne heq

theorem decodeWithin_escapeMarkup {fuel : Nat} {s : Text} (h : s.length ≤ fuel) :
    decodeWithin fuel (escapeMarkup s) = s := by
  induction s generalizing fuel with
  | nil =>
      exact decodeWithin_nil fuel
  | cons c s ih =>
      cases fuel with
      | zero =>
          simp at h
      | succ fuel =>
          have hs : s.length ≤ fuel := Nat.le_of_succ_le_succ h
          have hescaped : escapeMarkup (c :: s) = markupEscape c ++ escapeMarkup s := rfl
          rw [hescaped, decodeWithin_markupEscape, ih hs]

theorem length_le_escapeMarkup (s : Text) : s.length ≤ (escapeMarkup s).length := by
  induction s with
  | nil =>
      exact Nat.le_refl 0
  | cons c s ih =>
      have hpos : 1 ≤ (markupEscape c).length := by
        unfold markupEscape nameEscape
        repeat' split
        all_goals simp
      have hescaped : escapeMarkup (c :: s) = markupEscape c ++ escapeMarkup s := rfl
      rw [hescaped, List.length_append, List.length_cons]
      omega

theorem decodeCode_escapeMarkup (s : Text) : decodeCode (escapeMarkup s) = s :=
  decodeWithin_escapeMarkup (length_le_escapeMarkup s)

theorem escapeMarkup_injective : Function.Injective escapeMarkup :=
  Function.LeftInverse.injective decodeCode_escapeMarkup

/-!
# Highlighted code

Highlighted code is escaped with five references, and those are undone in it.
-/

def unescapeCode : Text -> Text
  | '&' :: 'a' :: 'm' :: 'p' :: ';' :: s => '&' :: unescapeCode s
  | '&' :: 'l' :: 't' :: ';' :: s => '<' :: unescapeCode s
  | '&' :: 'g' :: 't' :: ';' :: s => '>' :: unescapeCode s
  | '&' :: 'q' :: 'u' :: 'o' :: 't' :: ';' :: s => '"' :: unescapeCode s
  | '&' :: '#' :: '3' :: '9' :: ';' :: s => '\'' :: unescapeCode s
  | c :: s => c :: unescapeCode s
  | [] => []

theorem unescapeCode_codeEscape (c : Char) (rest : Text) :
    unescapeCode (codeEscape c ++ rest) = c :: unescapeCode rest := by
  unfold codeEscape
  split
  · rfl
  · unfold markupEscape
    split
    · rfl
    · unfold nameEscape
      split
      · rfl
      · rfl
      · rfl
      · rename_i hne _ _
        rw [List.singleton_append, unescapeCode]
        all_goals
          intro _ heq _
          exact hne heq

theorem unescapeCode_escapeCode (s : Text) : unescapeCode (escapeCode s) = s := by
  induction s with
  | nil =>
      rfl
  | cons c s ih =>
      have hescaped : escapeCode (c :: s) = codeEscape c ++ escapeCode s := rfl
      rw [hescaped, unescapeCode_codeEscape, ih]

/-!
# Names

Names are escaped with three references, and only those are undone in them.
-/

def unescapeName : Text -> Text
  | '&' :: 'a' :: 'm' :: 'p' :: ';' :: s => '&' :: unescapeName s
  | '&' :: 'l' :: 't' :: ';' :: s => '<' :: unescapeName s
  | '&' :: 'g' :: 't' :: ';' :: s => '>' :: unescapeName s
  | c :: s => c :: unescapeName s
  | [] => []

theorem unescapeName_nameEscape (c : Char) (rest : Text) :
    unescapeName (nameEscape c ++ rest) = c :: unescapeName rest := by
  unfold nameEscape
  split
  · rfl
  · rfl
  · rfl
  · rename_i hne _ _
    rw [List.singleton_append, unescapeName]
    all_goals
      intro _ heq _
      exact hne heq

theorem unescapeName_escapeName (s : Text) : unescapeName (escapeName s) = s := by
  induction s with
  | nil =>
      rfl
  | cons c s ih =>
      have hescaped : escapeName (c :: s) = nameEscape c ++ escapeName s := rfl
      rw [hescaped, unescapeName_nameEscape, ih]

end Text
end Folio
