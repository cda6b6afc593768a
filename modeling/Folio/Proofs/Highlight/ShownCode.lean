import Folio.Proofs.Highlight.Cutting
import Folio.Proofs.Highlight.Label
import Folio.Proofs.Highlight.Spans
import Folio.Proofs.Text.Decode

/-!
# The code that a reader sees

Plain text, which a label of no known language stands for, is put in a span and nothing is
changed in it: without the tags of the span, and with its references read, the highlighted
code is the code.
-/

namespace Folio
namespace Highlight

/-!
# Markup without its spans
-/

def afterSpanTag? (s : Text) : Option Text :=
  match Text.after? "</span>" s with
  | some rest => some rest
  | none =>
      match Text.after? "<span class=\"" s with
      | some classes => Text.after? "\">" (classes.dropWhile fun c => c ≠ '"')
      | none => none

theorem length_lt_of_afterSpanTag? {s rest : Text} (h : afterSpanTag? s = some rest) :
    rest.length < s.length := by
  unfold afterSpanTag? at h
  split at h
  · rename_i behind hclosing
    injection h with hrest
    rw [Text.after?_eq_some_iff.mp hclosing, hrest, List.length_append]
    exact Nat.lt_add_of_pos_left (by decide)
  · split at h
    · rename_i classes hopening
      have hsuffix : (classes.dropWhile fun c => c ≠ '"') <:+ classes := List.dropWhile_suffix _
      have hlength := hsuffix.length_le
      rw [Text.after?_eq_some_iff.mp h, List.length_append] at hlength
      rw [Text.after?_eq_some_iff.mp hopening, List.length_append]
      have hpos : 0 < "<span class=\"".toList.length := by decide
      omega
    · cases h

/-- A text without the tags of its spans. -/
def withoutSpans (s : Text) : Text :=
  match s with
  | [] => []
  | c :: tail =>
      match _htag : afterSpanTag? (c :: tail) with
      | some rest => withoutSpans rest
      | none => c :: withoutSpans tail
termination_by s.length
decreasing_by
  · exact length_lt_of_afterSpanTag? _htag
  · exact Nat.lt_succ_self _

theorem withoutSpans_nil : withoutSpans [] = [] := by
  rw [withoutSpans]

theorem withoutSpans_tag {s rest : Text} (h : afterSpanTag? s = some rest) :
    withoutSpans s = withoutSpans rest := by
  cases s with
  | nil =>
      have hlt := length_lt_of_afterSpanTag? h
      simp at hlt
  | cons c tail =>
      rw [withoutSpans]
      split
      · rename_i hsome
        rw [h] at hsome
        injection hsome with heq
        rw [heq]
      · rename_i hnone
        rw [h] at hnone
        cases hnone

theorem withoutSpans_cons {c : Char} {tail : Text} (h : afterSpanTag? (c :: tail) = none) :
    withoutSpans (c :: tail) = c :: withoutSpans tail := by
  rw [withoutSpans]
  split
  · rename_i hsome
    rw [h] at hsome
    cases hsome
  · rfl

theorem afterSpanTag?_closing (rest : Text) : afterSpanTag? ("</span>".toList ++ rest) = some rest := by
  unfold afterSpanTag?
  rw [Text.after?_append]

theorem afterSpanTag?_opening {scope : Text} (h : CleanScope scope) (rest : Text) :
    afterSpanTag? (spanTag scope ++ rest) = some rest := by
  have hclasses := not_mem_classes (by decide) h.2
  have hclosing : "\">".toList = ['"', '>'] := rfl
  have htext : spanTag scope ++ rest =
      "<span class=\"".toList ++ (classes scope ++ '"' :: '>' :: rest) := by
    unfold spanTag
    rw [hclosing]
    simp only [List.append_assoc, List.cons_append, List.nil_append]
  have hno : forall s : Text, Text.after? "</span>" ("<span class=\"".toList ++ s) = none :=
    fun _ => rfl
  have hbehind : Text.after? "\">" ('"' :: '>' :: rest) = some rest := rfl
  rw [htext]
  unfold afterSpanTag?
  rw [hno]
  dsimp only
  rw [Text.after?_append]
  dsimp only
  rw [Text.dropWhile_ne_append hclasses, hbehind]

theorem afterSpanTag?_of_ne {c : Char} (h : c ≠ '<') (s : Text) : afterSpanTag? (c :: s) = none := by
  have hclosing : Text.after? "</span>" (c :: s) = none := if_neg h.symm
  have hopening : Text.after? "<span class=\"" (c :: s) = none := if_neg h.symm
  unfold afterSpanTag?
  rw [hclosing, hopening]

theorem withoutSpans_append {s : Text} (h : '<' ∉ s) (rest : Text) :
    withoutSpans (s ++ rest) = s ++ withoutSpans rest := by
  induction s with
  | nil =>
      rfl
  | cons c s ih =>
      have hc : c ≠ '<' := fun heq => h (by simp [heq])
      have hs : '<' ∉ s := fun hmem => h (List.mem_cons_of_mem c hmem)
      rw [List.cons_append, withoutSpans_cons (afterSpanTag?_of_ne hc _), ih hs, List.cons_append]

theorem withoutSpans_spanned {language : Language} (h : CleanScope language.scope) (code : Text) :
    withoutSpans (spanned language code) = Text.escapeCode code := by
  unfold spanned
  split
  · rename_i hempty
    rw [hempty]
    exact withoutSpans_nil
  · have hclosing : withoutSpans "</span>".toList = [] := by
      have htag := withoutSpans_tag (afterSpanTag?_closing [])
      rw [List.append_nil, withoutSpans_nil] at htag
      exact htag
    rw [List.append_assoc, withoutSpans_tag (afterSpanTag?_opening h _),
      withoutSpans_append (Text.bracket_not_mem_escapeCode code), hclosing, List.append_nil]

/-!
# Highlighted blocks
-/

/-- A written block of escaped code with no label, or with one of no known language, becomes a
highlighted block with the same label.  Without its spans that has the code as it is escaped
there, and with its references read it is the code. -/
theorem page_shows_code [Highlighter] {label : Option Text}
    (h : forall written, label = some written -> IsUnknown written) (s : Text) :
    let block : CodeBlock := { label := label, body := Text.escapeMarkup s }
    exists inner,
      page block.source =
          "<div class=\"codehilite\"><pre><code".toList ++ labelMarkup label ++ ">".toList ++
            inner ++ "</code></pre></div>".toList ∧
        withoutSpans inner = Text.escapeCode s ∧
        Text.unescapeCode (withoutSpans inner) = s := by
  intro block
  have hlegal : block.Legal :=
    ⟨Text.bracket_not_mem_escapeMarkup s, fun written hlabel =>
      ⟨(h written hlabel).ne_nil, (h written hlabel).quote⟩⟩
  have hfront : CodeBlock.front? block.source = some (block, []) :=
    CodeBlock.front?_eq_some_source_iff.mpr ⟨hlegal, (List.append_nil _).symm⟩
  have hcode : block.code = s := Text.decodeCode_escapeMarkup s
  have hpage : page block.source = Highlight.block label s := by
    have hreplaced := CodeBlock.replaceAll_block (fun b => Highlight.block b.label b.code) hfront
    rw [hcode] at hreplaced
    exact hreplaced.trans (List.append_nil _)
  have hshown : withoutSpans (markup (languageOf label) s) = Text.escapeCode s := by
    rw [languageOf_of_unknown h, markup, if_pos rfl]
    exact withoutSpans_spanned (by decide) s
  refine ⟨markup (languageOf label) s, hpage, hshown, ?_⟩
  rw [hshown, Text.unescapeCode_escapeCode]

/-- The code has references in it, quotes of both kinds, an empty line and no line feed at its
end. -/
theorem page_shows_code_of_references :
    let _ : Highlighter := Highlighter.wholeCode
    let s : Text := "&amp;lt; \"é\"\n\n'&#39;' <p>"
    let block : CodeBlock := { label := some "gridworld".toList, body := Text.escapeMarkup s }
    IsUnknown "gridworld" ∧
      exists inner,
        page block.source =
            "<div class=\"codehilite\"><pre><code class=\"language-gridworld\">".toList ++ inner ++
              "</code></pre></div>".toList ∧
          Text.unescapeCode (withoutSpans inner) = s := by
  intro _ s block
  have hunknown : IsUnknown "gridworld".toList :=
    ⟨by decide, by decide, by decide +kernel⟩
  have hlabel : forall written, some "gridworld".toList = some written -> IsUnknown written := by
    intro written hwritten
    injection hwritten with heq
    rw [← heq]
    exact hunknown
  rcases page_shows_code hlabel s with ⟨inner, hpage, _, hcode⟩
  refine ⟨hunknown, inner, ?_, hcode⟩
  rw [hpage]
  rfl

end Highlight
end Folio
