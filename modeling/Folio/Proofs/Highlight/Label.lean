import Folio.Highlight

/-!
# Labels of languages

A label stands for the last language that it names by an extension, or else for the last one
that it names in full.  A label that names none stands for plain text; every label with an
angle bracket is such a one.
-/

namespace Folio
namespace Highlight

namespace Language

def Answers (language : Language) (label : Text) : Prop :=
  hasExtension label language = true ∨ hasName label language = true

instance (language : Language) (label : Text) : Decidable (language.Answers label) :=
  inferInstanceAs (Decidable (_ ∨ _))

theorem ofLabel_of_unknown {label : Text}
    (h : forall language, language ∈ all -> ¬ language.Answers label) : ofLabel label = plain := by
  have hextension : all.reverse.find? (hasExtension label) = none := by
    apply List.find?_eq_none.mpr
    intro language hlanguage hanswers
    exact h language (List.mem_reverse.mp hlanguage) (Or.inl hanswers)
  have hname : all.reverse.find? (hasName label) = none := by
    apply List.find?_eq_none.mpr
    intro language hlanguage hanswers
    exact h language (List.mem_reverse.mp hlanguage) (Or.inr hanswers)
  rw [ofLabel, hextension, hname]
  rfl

/-!
# Labels with angle brackets
-/

theorem bracket_not_mem_all : forall language, language ∈ all ->
    '<' ∉ Text.asciiLower language.name ∧
      forall extension, extension ∈ language.extensions -> '<' ∉ Text.asciiLower extension := by
  decide +kernel

theorem bracket_mem_asciiLower {label : Text} (h : '<' ∈ label) :
    '<' ∈ Text.asciiLower label :=
  List.mem_map.mpr ⟨'<', h, rfl⟩

theorem ofLabel_of_bracket {label : Text} (h : '<' ∈ label) : ofLabel label = plain := by
  apply ofLabel_of_unknown
  rintro language hlanguage (hextension | hname)
  · rcases List.any_eq_true.mp hextension with ⟨extension, hmem, heq⟩
    have hfree := (bracket_not_mem_all language hlanguage).2 extension hmem
    rw [eq_of_beq heq] at hfree
    exact hfree (bracket_mem_asciiLower h)
  · have hfree := (bracket_not_mem_all language hlanguage).1
    rw [eq_of_beq hname] at hfree
    exact hfree (bracket_mem_asciiLower h)

end Language

/-!
# Labels of no known language
-/

/-- Whether a label can be written into a block, and is that of no known language. -/
structure IsUnknown (label : Text) : Prop where
  ne_nil : label ≠ []
  quote : '"' ∉ label
  language : forall language, language ∈ Language.all -> ¬ language.Answers label

theorem languageOf_of_unknown {label : Option Text}
    (h : forall written, label = some written -> IsUnknown written) :
    languageOf label = Language.plain := by
  cases label with
  | none =>
      rfl
  | some written =>
      exact Language.ofLabel_of_unknown (h written rfl).language

end Highlight
end Folio
