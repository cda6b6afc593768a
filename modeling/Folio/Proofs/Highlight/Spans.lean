import Folio.Highlight
import Folio.Proofs.Text.Tag

/-!
# Tags of highlighted code

The only tags of highlighted code are those of its spans, and a span has classes and no
other attribute.  Plain text is written like this; of other code a highlighter is asked to
do the same, to put code of at least one character into a span, and to make nothing of no
code.
-/

namespace Folio
namespace Highlight

/-!
# Markup of spans
-/

/-- Whether all tags of a text are tags of spans, with their classes and nothing else. -/
inductive SpanMarkup : Text -> Prop where
  | nil : SpanMarkup []
  | opening {classes s : Text} :
      '<' ∉ classes -> '"' ∉ classes -> SpanMarkup s ->
        SpanMarkup ("<span class=\"".toList ++ classes ++ "\">".toList ++ s)
  | closing {s : Text} : SpanMarkup s -> SpanMarkup ("</span>".toList ++ s)
  | text {c : Char} {s : Text} : c ≠ '<' -> SpanMarkup s -> SpanMarkup (c :: s)

namespace SpanMarkup

theorem append {s t : Text} (hs : '<' ∉ s) (ht : SpanMarkup t) : SpanMarkup (s ++ t) := by
  induction s with
  | nil =>
      exact ht
  | cons c s ih =>
      rw [List.mem_cons, not_or] at hs
      exact SpanMarkup.text (Ne.symm hs.1) (ih hs.2)

theorem isQuiet {s : Text} (h : SpanMarkup s) : Text.isQuiet s = true := by
  induction h with
  | nil =>
      rfl
  | opening hbracket _ _ ih =>
      have hstart : Text.isQuiet "<span class=\"".toList = true := by decide
      have hclasses := Text.isQuiet_append hstart (Text.isQuiet_of_not_mem hbracket)
      exact Text.isQuiet_append (Text.isQuiet_append hclasses rfl) ih
  | closing _ ih =>
      exact Text.isQuiet_append (s := "</span>".toList) rfl ih
  | text hc _ ih =>
      rename_i c s _
      have hquiet : Text.isQuiet [c] = true := by
        simp [Text.isQuiet, hc]
      exact Text.isQuiet_append hquiet ih

end SpanMarkup

/-!
# Code without parts
-/

def CleanScope (scope : Text) : Prop :=
  '<' ∉ scope ∧ '"' ∉ scope

instance (scope : Text) : Decidable (CleanScope scope) :=
  inferInstanceAs (Decidable (_ ∧ _))

theorem not_mem_classes {c : Char} (hc : c ≠ ' ') {scope : Text} (h : c ∉ scope) :
    c ∉ classes scope := by
  intro hmem
  rcases List.mem_map.mp hmem with ⟨d, hd, heq⟩
  split at heq
  · exact hc heq.symm
  · rw [heq] at hd
    exact h hd

theorem spanMarkup_spanned {language : Language} (h : CleanScope language.scope) (code : Text) :
    SpanMarkup (spanned language code) := by
  unfold spanned
  split
  · exact SpanMarkup.nil
  · have hend : SpanMarkup "</span>".toList := SpanMarkup.closing SpanMarkup.nil
    have hcode := SpanMarkup.append (Text.bracket_not_mem_escapeCode code) hend
    have hspan := SpanMarkup.opening (not_mem_classes (by decide) h.1)
      (not_mem_classes (by decide) h.2) hcode
    rw [← List.append_assoc] at hspan
    exact hspan

theorem spanned_begins (language : Language) {code : Text} (h : code ≠ []) :
    exists more, spanned language code = "<span".toList ++ more := by
  have hstart : "<span class=\"".toList = "<span".toList ++ " class=\"".toList := rfl
  unfold spanned spanTag
  rw [if_neg h, hstart]
  simp only [List.append_assoc]
  exact ⟨_, rfl⟩

theorem Language.cleanScope_of_mem :
    forall language, language ∈ all -> CleanScope language.scope := by
  decide +kernel

theorem Language.ofLabel_mem_all (label : Text) : ofLabel label ∈ all := by
  have hfound : forall test language, all.reverse.find? test = some language -> language ∈ all := by
    intro test language hfind
    exact List.mem_reverse.mp (List.mem_of_find?_eq_some hfind)
  unfold ofLabel
  cases hextension : all.reverse.find? (hasExtension label) with
  | some language =>
      exact hfound _ language hextension
  | none =>
      cases hname : all.reverse.find? (hasName label) with
      | some language =>
          exact hfound _ language hname
      | none =>
          exact List.mem_cons_self

theorem languageOf_mem_all (label : Option Text) : languageOf label ∈ Language.all := by
  cases label with
  | none =>
      exact List.mem_cons_self
  | some label =>
      exact Language.ofLabel_mem_all label

/-!
# Labels
-/

theorem isQuiet_labelMarkup {label : Option Text}
    (h : forall written, label = some written -> Text.isQuiet written = true) :
    Text.isQuiet (labelMarkup label) = true := by
  cases label with
  | none =>
      rfl
  | some written =>
      have hlead := Text.isQuiet_append (s := CodeBlock.labelStart) rfl (h written rfl)
      exact Text.isQuiet_append hlead rfl

end Highlight

/-!
# Highlighters
-/

namespace Highlighter

open Highlight (Language SpanMarkup)

/-- Whether a highlighter writes no tags but those of spans. -/
def WritesSpans [Highlighter] : Prop :=
  forall language, language ∈ Language.all -> forall code, SpanMarkup (markup language code)

/-- What a highlighter is relied on for: its only tags are those of spans, code of at least
one character begins with one, and no code has none. -/
structure Lawful [Highlighter] : Prop where
  spans : WritesSpans
  begins : forall language, language ∈ Language.all -> forall code, code ≠ [] ->
    exists more, markup language code = "<span".toList ++ more
  empty : forall language, language ∈ Language.all -> markup language [] = []

theorem lawful_wholeCode : @Lawful wholeCode := by
  let _ := wholeCode
  constructor
  · intro language hlanguage code
    exact Highlight.spanMarkup_spanned (Language.cleanScope_of_mem language hlanguage) code
  · intro language _ code hcode
    exact Highlight.spanned_begins language hcode
  · intro language _
    rfl

end Highlighter

namespace Highlight

variable [Highlighter]

theorem spanMarkup_markup (h : Highlighter.WritesSpans) (label : Option Text) (code : Text) :
    SpanMarkup (markup (languageOf label) code) := by
  unfold markup
  split
  · rename_i hplain
    rw [hplain]
    exact spanMarkup_spanned (by decide) code
  · exact h _ (languageOf_mem_all label) code

theorem markup_begins (h : Highlighter.Lawful) (label : Option Text) {code : Text}
    (hcode : code ≠ []) : exists more, markup (languageOf label) code = "<span".toList ++ more := by
  unfold markup
  split
  · exact spanned_begins _ hcode
  · exact h.begins _ (languageOf_mem_all label) code hcode

theorem markup_of_empty (h : Highlighter.Lawful) (label : Option Text) :
    markup (languageOf label) [] = [] := by
  unfold markup
  split
  · rfl
  · exact h.empty _ (languageOf_mem_all label)

end Highlight
end Folio
