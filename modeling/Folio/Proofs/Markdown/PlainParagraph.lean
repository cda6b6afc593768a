import Folio.Proofs.Highlight.Passage
import Folio.Proofs.Markdown.Paragraph

/-!
# Paragraphs of plain text

A paragraph of plain text is printed as a passage.  Between its tags stands the
escaped text, and where it ends a note, the links back from the note.
-/

namespace Folio
namespace Markdown

/-!
# Plain text
-/

namespace Inline

/-- The text that inline elements consist of, when they are text and line breaks
alone. -/
def literal? : List Inline -> Option Text
  | [] => some []
  | text content :: rest => (literal? rest).map fun s => content ++ s
  | softBreak :: rest => (literal? rest).map fun s => '\n' :: s
  | _ => none

theorem markupAll_text (content : Text) (rest : List Inline) :
    markupAll (text content :: rest) = Text.escapeMarkup content ++ markupAll rest := rfl

theorem markupAll_softBreak (rest : List Inline) :
    markupAll (softBreak :: rest) = '\n' :: markupAll rest := rfl

theorem markupAll_of_literal {content : List Inline} {s : Text}
    (h : literal? content = some s) : markupAll content = Text.escapeMarkup s := by
  induction content using literal?.induct generalizing s with
  | case1 =>
      injection h with h
      rw [← h]
      rfl
  | case2 content rest ih =>
      rcases Option.map_eq_some_iff.mp h with ⟨more, hrest, hs⟩
      rw [markupAll_text, ih hrest, ← hs, Text.escapeMarkup_append]
  | case3 rest ih =>
      rcases Option.map_eq_some_iff.mp h with ⟨more, hrest, hs⟩
      rw [markupAll_softBreak, ih hrest, ← hs]
      rfl
  | case4 content hnil htext hbreak =>
      rw [literal?] at h
      · cases h
      · exact hnil
      · exact htext
      · exact hbreak

end Inline

/-!
# Links back from a note
-/

theorem isQuiet_raised (occurrence : Nat) :
    Text.isQuiet (if 1 < occurrence then
      "<sup class=\"footnote-ref\">".toList ++ Text.ofNat occurrence ++ "</sup>".toList
      else []) = true := by
  split
  · apply Text.isQuiet_append _ rfl
    exact Text.isQuiet_append rfl (Text.isQuiet_of_not_mem (Text.bracket_not_mem_ofNat occurrence))
  · rfl

theorem bracket_not_mem_mark (occurrence : Nat) :
    '<' ∉ (if 1 < occurrence then '-' :: Text.ofNat occurrence else []) := by
  split
  · simpa using Text.bracket_not_mem_ofNat occurrence
  · simp

theorem backLink_eq (name : Text) (number occurrence : Nat) :
    exists x, Text.isQuiet x = true ∧
      backLink name number occurrence = "<a href=".toList ++ '"' :: '#' :: x := by
  have hmark := Text.isQuiet_of_not_mem (bracket_not_mem_mark occurrence)
  have hraised := isQuiet_raised occurrence
  have hname := Text.isQuiet_of_not_mem (Text.bracket_not_mem_escapeTarget name)
  have hnumber := Text.isQuiet_of_not_mem (Text.bracket_not_mem_ofNat number)
  have hlink : backLink name number occurrence =
      "<a href=\"#fnref-".toList ++ Text.escapeTarget name ++
        (if 1 < occurrence then '-' :: Text.ofNat occurrence else []) ++
        "\" class=\"footnote-backref\" data-footnote-backref data-footnote-backref-idx=\"".toList ++
        Text.ofNat number ++ (if 1 < occurrence then '-' :: Text.ofNat occurrence else []) ++
        "\" aria-label=\"Back to reference ".toList ++ Text.ofNat number ++
        (if 1 < occurrence then '-' :: Text.ofNat occurrence else []) ++ "\">↩".toList ++
        (if 1 < occurrence then
          "<sup class=\"footnote-ref\">".toList ++ Text.ofNat occurrence ++ "</sup>".toList
        else []) ++ "</a>".toList := rfl
  have hstart : "<a href=\"#fnref-".toList =
      "<a href=".toList ++ '"' :: '#' :: "fnref-".toList := rfl
  generalize (if 1 < occurrence then '-' :: Text.ofNat occurrence else []) = mark at hmark hlink
  generalize (if 1 < occurrence then
    "<sup class=\"footnote-ref\">".toList ++ Text.ofNat occurrence ++ "</sup>".toList
    else []) = raised at hraised hlink
  rw [hstart] at hlink
  simp only [List.append_assoc, List.cons_append] at hlink
  refine ⟨_, ?_, hlink⟩
  repeat' apply Text.isQuiet_append
  · rfl
  · exact hname
  · exact hmark
  · rfl
  · exact hnumber
  · exact hmark
  · rfl
  · exact hnumber
  · exact hmark
  · rfl
  · exact hraised
  · rfl

theorem isQuiet_backLink (name : Text) (number occurrence : Nat) :
    Text.isQuiet (backLink name number occurrence) = true := by
  rcases backLink_eq name number occurrence with ⟨x, hx, hlink⟩
  rw [hlink]
  exact Text.isQuiet_append rfl (Text.isQuiet_append (s := ['"', '#']) rfl hx)

/-- What stands behind the content of a printed paragraph: nothing, the space in
front of the links, or the links with their space. -/
inductive Ending : Text -> Prop where
  | none : Ending []
  | space : Ending [' ']
  | links {x : Text} (h : Text.isQuiet x = true) : Ending (" <a href=".toList ++ '"' :: '#' :: x)

namespace Ending

theorem isQuiet {ending : Text} (h : Ending ending) : Text.isQuiet ending = true := by
  cases h with
  | none =>
      rfl
  | space =>
      rfl
  | links hx =>
      exact Text.isQuiet_append rfl (Text.isQuiet_append (s := ['"', '#']) rfl hx)

theorem eq_nil_or_space {ending : Text} (h : Ending ending) :
    ending = [] ∨ exists x, ending = ' ' :: x := by
  cases h with
  | none =>
      exact Or.inl rfl
  | space =>
      exact Or.inr ⟨[], rfl⟩
  | links hx =>
      exact Or.inr ⟨_, rfl⟩

end Ending

theorem isQuiet_join_links (name : Text) (number : Nat) (occurrences : List Nat) :
    Text.isQuiet (Text.join [' '] (occurrences.map fun n => backLink name number (n + 1))) =
      true := by
  induction occurrences with
  | nil =>
      rfl
  | cons n rest ih =>
      cases rest with
      | nil =>
          exact isQuiet_backLink name number (n + 1)
      | cons m rest =>
          exact Text.isQuiet_append
            (Text.isQuiet_append (isQuiet_backLink name number (n + 1)) rfl) ih

theorem NoteEnding.ending {s : Text} (h : NoteEnding s) : Ending s := by
  cases h with
  | space =>
      exact Ending.space
  | links name number calls =>
      rw [backLinks]
      cases hcalls : List.range calls with
      | nil =>
          exact Ending.space
      | cons n rest =>
          have hjoin := isQuiet_join_links name number rest
          rcases backLink_eq name number (n + 1) with ⟨x, hx, hlink⟩
          cases rest with
          | nil =>
              have hending := Ending.links hx
              rw [List.map_cons, List.map_nil, Text.join, hlink]
              exact hending
          | cons m rest =>
              have hmore := Text.isQuiet_append (Text.isQuiet_append hx (t := [' ']) rfl) hjoin
              have hending := Ending.links hmore
              rw [List.map_cons, List.map_cons, Text.join, hlink]
              · simpa using hending
              · simp

theorem Shows.isEnding {printed : List Inline × Text} {paragraph : Paragraph}
    (h : Shows printed paragraph) : Ending printed.2 := by
  cases hnote : paragraph.endsNote with
  | false =>
      rw [h.plain hnote]
      exact Ending.none
  | true =>
      exact (h.ending hnote).ending

/-!
# Printed paragraphs
-/

theorem paragraphMarkup_of_literal {content : List Inline} {s : Text}
    (h : Inline.literal? content = some s) (ending : Text) :
    paragraphMarkup content ending =
      '<' :: 'p' :: '>' :: (Text.escapeMarkup s ++ (ending ++ "</p>".toList)) := by
  have hmarkup : paragraphMarkup content ending =
      '<' :: 'p' :: '>' :: Inline.markupAll content ++ ending ++ "</p>".toList := rfl
  rw [hmarkup, Inline.markupAll_of_literal h]
  simp only [List.cons_append, List.append_assoc]

theorem paragraphMarkup_text (s ending : Text) :
    paragraphMarkup [Inline.text s] ending =
      '<' :: 'p' :: '>' :: (Text.escapeMarkup s ++ (ending ++ "</p>".toList)) := by
  apply paragraphMarkup_of_literal
  simp [Inline.literal?]

theorem isQuiet_paragraph (s : Text) {ending : Text} (h : Ending ending) :
    Text.isQuiet ('p' :: '>' :: (Text.escapeMarkup s ++ (ending ++ "</p>".toList))) = true := by
  have htext := Text.isQuiet_of_not_mem (Text.bracket_not_mem_escapeMarkup s)
  apply Text.isQuiet_append (s := ['p', '>']) rfl
  exact Text.isQuiet_append htext (Text.isQuiet_append h.isQuiet rfl)

theorem passage_paragraph {ending : Text} (h : Ending ending) (s : Text) :
    Highlight.CodeBlock.Passage (paragraphMarkup [Inline.text s] ending) := by
  rw [paragraphMarkup_text]
  exact Highlight.CodeBlock.Passage.of_isQuiet (isQuiet_paragraph s h)

theorem quotes_paragraph {ending : Text} (h : Ending ending) :
    (forall s, '"' ∉ paragraphMarkup [Inline.text s] ending) ∨
      forall s, Highlight.CodeBlock.Sealed (paragraphMarkup [Inline.text s] ending) := by
  cases h with
  | none =>
      apply Or.inl
      intro s
      have hquote := Text.quote_not_mem_escapeMarkup s
      rw [paragraphMarkup_text]
      simp [hquote]
  | space =>
      apply Or.inl
      intro s
      have hquote := Text.quote_not_mem_escapeMarkup s
      rw [paragraphMarkup_text]
      simp [hquote]
  | links hx =>
      rename_i x
      apply Or.inr
      intro s
      have hquote := Text.quote_not_mem_escapeMarkup s
      refine ⟨'<' :: 'p' :: '>' :: (Text.escapeMarkup s ++ " <a href=".toList), '#',
        x ++ "</p>".toList, ?_, ?_, ?_⟩
      · rw [paragraphMarkup_text]
        simp only [List.cons_append, List.append_assoc]
      · simp [hquote]
      · decide

theorem print_paragraph (code : Text -> Text -> Text) (lead behind : List Part)
    (content : List Inline) (ending : Text) :
    print code (lead ++ Part.paragraph content ending :: behind) =
      print code lead ++
        (paragraphMarkup content ending ++ '\n' :: printFrom code true behind) := by
  rw [print, print, printFrom_append]
  rfl

theorem page_around_paragraph [Highlighter] (code : Text -> Text -> Text) (lead behind : List Part)
    {ending : Text} (h : Ending ending) :
    exists left right, forall s,
      Highlight.page (print code (lead ++ Part.paragraph [Inline.text s] ending :: behind)) =
        left ++ paragraphMarkup [Inline.text s] ending ++ right := by
  rcases Highlight.page_around_passage (passage_paragraph h) (quotes_paragraph h)
    (print code lead) ('\n' :: printFrom code true behind) with ⟨left, right, hpage⟩
  refine ⟨left, right, ?_⟩
  intro s
  rw [print_paragraph, hpage s]

end Markdown
end Folio
