import Mathlib.Data.List.TakeWhile
import Folio.Proofs.Text.Replace
import Folio.Text.Escape

/-!
# Texts without paragraph tags

A text is quiet when every angle bracket in it is followed by another character
than `p`.  No paragraph and no preformatted code begins in a quiet text, not even
at its end.  Escaped text has no angle brackets at all.
-/

namespace Folio
namespace Text

/-!
# Cutting at a character
-/

theorem append_eq_of_not_mem {c : Char} {w t before z : Text} (hw : c ∉ w)
    (h : w ++ t = before ++ c :: z) :
    exists more, before = w ++ more ∧ t = more ++ c :: z := by
  rcases List.append_eq_append_iff.mp h with ⟨more, hbefore, ht⟩ | ⟨more, hsplit, hz⟩
  · exact ⟨more, hbefore, ht⟩
  · cases more with
    | nil =>
        exact ⟨[], by simpa using hsplit.symm, by simpa using hz.symm⟩
    | cons d more =>
        injection hz with hcd _
        exact absurd (by simp [hsplit, hcd]) hw

theorem cut_eq_of_not_mem {c : Char} {w w' t t' : Text} (hw : c ∉ w) (hw' : c ∉ w')
    (h : w ++ c :: t = w' ++ c :: t') : w = w' ∧ t = t' := by
  rcases append_eq_of_not_mem hw h with ⟨more, hmore, ht⟩
  cases more with
  | nil =>
      injection ht with _ ht
      exact ⟨by rw [hmore, List.append_nil], ht⟩
  | cons d more =>
      injection ht with hd _
      exact absurd (by simp [hmore, hd]) hw'

theorem behind_eq_of_not_mem {c : Char} {u t u' t' : Text} (ht : c ∉ t) (ht' : c ∉ t')
    (h : u ++ c :: t = u' ++ c :: t') : t = t' := by
  have hreverse := congrArg List.reverse h
  simp only [List.reverse_append, List.reverse_cons, List.append_assoc, List.cons_append,
    List.nil_append] at hreverse
  have hcut := cut_eq_of_not_mem (c := c) (by simpa using ht) (by simpa using ht') hreverse
  exact List.reverse_inj.mp hcut.1

section Until

variable {c : Char} {s : Text} (h : c ∉ s)

include h

theorem forall_ne_of_not_mem : forall d, d ∈ s -> (decide (d ≠ c)) = true := by
  intro d hd
  have hne : d ≠ c := fun heq => h (heq ▸ hd)
  simpa using hne

theorem takeWhile_ne_append (t : Text) : (s ++ c :: t).takeWhile (fun d => d ≠ c) = s := by
  rw [List.takeWhile_append_of_pos (forall_ne_of_not_mem h)]
  simp

theorem dropWhile_ne_append (t : Text) :
    (s ++ c :: t).dropWhile (fun d => d ≠ c) = c :: t := by
  rw [List.dropWhile_append_of_pos (forall_ne_of_not_mem h)]
  simp

end Until

/-!
# Quiet texts
-/

def isQuiet : Text -> Bool
  | [] => true
  | [c] => c ≠ '<'
  | c :: d :: s => (c ≠ '<' || d ≠ 'p') && isQuiet (d :: s)

theorem isQuiet_tail {c : Char} {s : Text} (h : isQuiet (c :: s) = true) :
    isQuiet s = true := by
  cases s with
  | nil =>
      rfl
  | cons d s =>
      simp only [isQuiet, Bool.and_eq_true] at h
      exact h.2

theorem isQuiet_of_append {s t : Text} (h : isQuiet (s ++ t) = true) : isQuiet t = true := by
  induction s with
  | nil =>
      exact h
  | cons c s ih =>
      exact ih (isQuiet_tail h)

theorem isQuiet_append {s t : Text} (hs : isQuiet s = true) (ht : isQuiet t = true) :
    isQuiet (s ++ t) = true := by
  induction s using isQuiet.induct with
  | case1 =>
      exact ht
  | case2 c =>
      have hc : c ≠ '<' := by
        simpa [isQuiet] using hs
      cases t with
      | nil =>
          exact hs
      | cons d t =>
          simp [isQuiet, hc, ht]
  | case3 c d s ih =>
      simp only [isQuiet, Bool.and_eq_true] at hs
      simp only [List.cons_append, isQuiet, Bool.and_eq_true]
      exact ⟨hs.1, ih hs.2⟩

theorem isQuiet_of_not_mem {s : Text} (h : '<' ∉ s) : isQuiet s = true := by
  induction s using isQuiet.induct with
  | case1 =>
      rfl
  | case2 c =>
      have hc : c ≠ '<' := fun heq => h (by simp [heq])
      simp [isQuiet, hc]
  | case3 c d s ih =>
      have hc : c ≠ '<' := fun heq => h (by simp [heq])
      have hrest : '<' ∉ d :: s := fun hmem => h (List.mem_cons_of_mem c hmem)
      simp [isQuiet, hc, ih hrest]

theorem not_isQuiet_tag (s z : Text) : isQuiet (s ++ '<' :: 'p' :: z) = false := by
  cases h : isQuiet (s ++ '<' :: 'p' :: z) with
  | false =>
      rfl
  | true =>
      have htag := isQuiet_of_append h
      simp [isQuiet] at htag

theorem not_isQuiet_bracket (s : Text) : isQuiet (s ++ ['<']) = false := by
  cases h : isQuiet (s ++ ['<']) with
  | false =>
      rfl
  | true =>
      have hbracket := isQuiet_of_append h
      simp [isQuiet] at hbracket

theorem append_eq_of_isQuiet {w t before z : Text} (hw : isQuiet w = true)
    (h : w ++ t = before ++ '<' :: 'p' :: z) :
    exists more, before = w ++ more ∧ t = more ++ '<' :: 'p' :: z := by
  rcases List.append_eq_append_iff.mp h with ⟨more, hbefore, ht⟩ | ⟨more, hsplit, hz⟩
  · exact ⟨more, hbefore, ht⟩
  · match more, hsplit, hz with
    | [], hsplit, hz =>
        exact ⟨[], by simpa using hsplit.symm, by simpa using hz.symm⟩
    | [c], hsplit, hz =>
        injection hz with hc _
        rw [hsplit, ← hc, not_isQuiet_bracket] at hw
        cases hw
    | c :: d :: more, hsplit, hz =>
        injection hz with hc hz
        injection hz with hd _
        rw [hsplit, ← hc, ← hd, not_isQuiet_tag] at hw
        cases hw

theorem eq_nil_of_isQuiet {s t z : Text} (hs : isQuiet s = true)
    (h : s ++ t = '<' :: 'p' :: z) : s = [] := by
  have hcut : s ++ t = [] ++ '<' :: 'p' :: z := h
  rcases append_eq_of_isQuiet hs hcut with ⟨more, hnil, _⟩
  exact (List.append_eq_nil_iff.mp hnil.symm).1

theorem Avoids.of_isQuiet (z : Text) {s : Text} (h : isQuiet s = true) :
    Avoids ('<' :: 'p' :: z) s := by
  rintro u v t hs hne ⟨rest, hrest⟩
  rw [hs] at h
  exact hne (eq_nil_of_isQuiet (isQuiet_of_append h) hrest.symm)

theorem Avoids.of_other_tag {c d : Char} (hne : c ≠ d) (z : Text) {s : Text}
    (h : isQuiet ('p' :: d :: s) = true) : Avoids ('<' :: 'p' :: c :: z) ('<' :: 'p' :: d :: s) := by
  apply Avoids.cons
  · rintro t ⟨rest, hrest⟩
    injection hrest with _ hrest
    injection hrest with _ hrest
    injection hrest with hcd _
    exact hne hcd
  · exact Avoids.of_isQuiet _ h

/-!
# Escaped texts
-/

theorem not_mem_flatMap {c : Char} {f : Char -> Text} (hf : forall d, c ∉ f d) (s : Text) :
    c ∉ s.flatMap f := by
  intro hmem
  rcases List.mem_flatMap.mp hmem with ⟨d, _, hd⟩
  exact hf d hd

theorem bracket_not_mem_nameEscape (d : Char) : '<' ∉ nameEscape d := by
  unfold nameEscape
  split
  · decide
  · decide
  · decide
  · rename_i hne _
    simpa using fun heq => hne heq.symm

theorem closer_not_mem_nameEscape (d : Char) : '>' ∉ nameEscape d := by
  unfold nameEscape
  split
  · decide
  · decide
  · decide
  · rename_i hne
    simpa using fun heq => hne heq.symm

theorem bracket_not_mem_markupEscape (d : Char) : '<' ∉ markupEscape d := by
  unfold markupEscape
  split
  · decide
  · exact bracket_not_mem_nameEscape d

theorem bracket_not_mem_codeEscape (d : Char) : '<' ∉ codeEscape d := by
  unfold codeEscape
  split
  · decide
  · exact bracket_not_mem_markupEscape d

theorem quote_mem_nameEscape_iff (d : Char) : '"' ∈ nameEscape d ↔ d = '"' := by
  unfold nameEscape
  split
  · decide
  · decide
  · decide
  · simp [eq_comm]

theorem quote_not_mem_markupEscape (d : Char) : '"' ∉ markupEscape d := by
  unfold markupEscape
  split
  · decide
  · rename_i hne
    rw [quote_mem_nameEscape_iff]
    exact hne

theorem isTargetChar_of_mem_percentByte {b : UInt8} {c : Char} (h : c ∈ percentByte b) :
    isTargetChar c = true := by
  have hdigit : forall n, n < 16 -> isTargetChar (hexDigit n) = true := by decide
  have hbyte : b.toNat < 256 := b.toNat_lt
  simp only [percentByte, List.mem_cons, List.not_mem_nil, or_false] at h
  rcases h with rfl | rfl | rfl
  · rfl
  · exact hdigit (b.toNat / 16) (by omega)
  · exact hdigit (b.toNat % 16) (by omega)

theorem isTargetChar_or_of_mem_targetEscape {c d : Char} (h : c ∈ targetEscape d) :
    isTargetChar c = true ∨ c = '&' := by
  have hnames : ("&amp;".toList ++ "&#x27;".toList).all
      (fun c => isTargetChar c || c == '&') = true := by decide
  simp only [List.all_append, Bool.and_eq_true, List.all_eq_true, Bool.or_eq_true,
    beq_iff_eq] at hnames
  unfold targetEscape at h
  split at h
  · rename_i htarget
    exact Or.inl (List.mem_singleton.mp h ▸ htarget)
  · split at h
    · exact hnames.1 c h
    · split at h
      · exact hnames.2 c h
      · rcases List.mem_flatMap.mp h with ⟨b, _, hb⟩
        exact Or.inl (isTargetChar_of_mem_percentByte hb)

theorem not_mem_escapeTarget {c : Char} (htarget : isTargetChar c = false) (hc : c ≠ '&')
    (s : Text) : c ∉ escapeTarget s := by
  apply not_mem_flatMap
  intro d hd
  rcases isTargetChar_or_of_mem_targetEscape hd with hkept | hamp
  · rw [htarget] at hkept
    cases hkept
  · exact hc hamp

theorem bracket_not_mem_escapeTarget (s : Text) : '<' ∉ escapeTarget s :=
  not_mem_escapeTarget rfl (by decide) s

theorem quote_not_mem_escapeTarget (s : Text) : '"' ∉ escapeTarget s :=
  not_mem_escapeTarget rfl (by decide) s

theorem not_mem_ofNat {c : Char} (h : c.isDigit = false) (n : Nat) : c ∉ ofNat n := by
  intro hmem
  have hdigit := Nat.isDigit_of_mem_toDigits (by decide) (by decide) hmem
  rw [h] at hdigit
  cases hdigit

theorem bracket_not_mem_ofNat (n : Nat) : '<' ∉ ofNat n :=
  not_mem_ofNat rfl n

theorem quote_not_mem_ofNat (n : Nat) : '"' ∉ ofNat n :=
  not_mem_ofNat rfl n

theorem bracket_not_mem_escapeName (s : Text) : '<' ∉ escapeName s :=
  not_mem_flatMap bracket_not_mem_nameEscape s

theorem closer_not_mem_escapeName (s : Text) : '>' ∉ escapeName s :=
  not_mem_flatMap closer_not_mem_nameEscape s

theorem bracket_not_mem_escapeMarkup (s : Text) : '<' ∉ escapeMarkup s :=
  not_mem_flatMap bracket_not_mem_markupEscape s

theorem bracket_not_mem_escapeCode (s : Text) : '<' ∉ escapeCode s :=
  not_mem_flatMap bracket_not_mem_codeEscape s

theorem quote_not_mem_escapeMarkup (s : Text) : '"' ∉ escapeMarkup s :=
  not_mem_flatMap quote_not_mem_markupEscape s

theorem isQuiet_escapeMarkup (s : Text) : isQuiet (escapeMarkup s) = true :=
  isQuiet_of_not_mem (bracket_not_mem_escapeMarkup s)

theorem isQuiet_escapeTarget (s : Text) : isQuiet (escapeTarget s) = true :=
  isQuiet_of_not_mem (bracket_not_mem_escapeTarget s)

theorem isQuiet_ofNat (n : Nat) : isQuiet (ofNat n) = true :=
  isQuiet_of_not_mem (bracket_not_mem_ofNat n)

theorem quote_mem_escapeName_iff (s : Text) : '"' ∈ escapeName s ↔ '"' ∈ s := by
  simp [escapeName, quote_mem_nameEscape_iff]

theorem length_nameEscape_le (d : Char) : (nameEscape d).length ≤ (markupEscape d).length := by
  unfold markupEscape
  split
  · decide
  · exact Nat.le_refl _

theorem length_escapeName_le (s : Text) : (escapeName s).length ≤ (escapeMarkup s).length := by
  induction s with
  | nil =>
      exact Nat.le_refl _
  | cons c s ih =>
      have hc := length_nameEscape_le c
      rw [escapeName, escapeMarkup] at ih ⊢
      rw [List.flatMap_cons, List.flatMap_cons, List.length_append, List.length_append]
      omega

theorem escapeMarkup_eq_escapeName_iff (s : Text) :
    escapeMarkup s = escapeName s ↔ '"' ∉ s := by
  constructor
  · intro h hmem
    apply quote_not_mem_escapeMarkup s
    rw [h]
    exact (quote_mem_escapeName_iff s).mpr hmem
  · intro h
    induction s with
    | nil =>
        rfl
    | cons c s ih =>
        have hc : c ≠ '"' := fun heq => h (by simp [heq])
        have hs : '"' ∉ s := fun hmem => h (List.mem_cons_of_mem c hmem)
        have hmarkup : markupEscape c = nameEscape c := by
          unfold markupEscape
          split
          · exact absurd rfl hc
          · rfl
        rw [escapeMarkup, escapeName, List.flatMap_cons, List.flatMap_cons, hmarkup]
        exact congrArg (nameEscape c ++ ·) (ih hs)

end Text
end Folio
