import Folio.Proofs.Markdown.TamePart
import Folio.Proofs.Text.Decode

/-!
# Highlighted pages

Code is highlighted in the finished page, where its blocks are found by their
tags.  For a document without raw markup this prints the same page again with
every code block highlighted from its text: each block is found with its bounds
and its label, its text is read back from the escaped one, and no block is found
anywhere else.  Only code whose info string is `math` is not found, because the
page writer gives its tag one more attribute.
-/

namespace Folio
namespace Markdown

def writtenBlock (info literal : Text) : Highlight.CodeBlock where
  label := (languageOf info).map Text.escapeMarkup
  body := Text.escapeMarkup literal

def highlightedCode [Highlighter] (info literal : Text) : Text :=
  Highlight.block ((languageOf info).map Text.escapeMarkup) literal ++ ['\n']

/-- A code block on a highlighted page. -/
def styledCode [Highlighter] (info literal : Text) : Text :=
  if info = "math".toList then plainCode info literal else highlightedCode info literal

/-!
# Written code
-/

theorem writtenBlock_legal {info : Text} (h : languageOf info ≠ some []) (literal : Text) :
    (writtenBlock info literal).Legal where
  body := Text.bracket_not_mem_escapeMarkup literal
  label := by
    intro label hlabel
    rcases Option.map_eq_some_iff.mp hlabel with ⟨word, hword, rfl⟩
    refine ⟨?_, Text.quote_not_mem_escapeMarkup word⟩
    intro hempty
    have hle := Text.length_le_escapeMarkup word
    rw [hempty, List.length_nil] at hle
    have hnil : word = [] := List.length_eq_zero_iff.mp (by omega)
    rw [hnil] at hword
    exact h hword

theorem plainCode_eq {info : Text} (h : info ≠ "math".toList) (literal : Text) :
    plainCode info literal =
      Highlight.CodeBlock.opening ++ (writtenBlock info literal).inside ++ ['\n'] := by
  have hending : "</code></pre>\n".toList = Highlight.CodeBlock.ending ++ ['\n'] := rfl
  have hclose : ">".toList = ['>'] := rfl
  unfold plainCode
  rw [Highlight.CodeBlock.inside, writtenBlock]
  cases languageOf info with
  | none =>
      dsimp only
      rw [hending, hclose]
      simp only [List.append_assoc, List.cons_append, List.nil_append]
      rfl
  | some language =>
      have hempty : ("" : Text) = [] := rfl
      have hlabel : Highlight.labelMarkup (some (Text.escapeMarkup language)) =
          " class=\"language-".toList ++ Text.escapeMarkup language ++ "\"".toList := rfl
      dsimp only
      rw [if_neg h, hending, hclose, Option.map_some, hlabel, hempty]
      simp only [List.append_assoc, List.cons_append, List.nil_append]
      rfl

theorem front?_plainCode {info : Text} (hmath : info ≠ "math".toList)
    (hlabel : languageOf info ≠ some []) (literal rest : Text) :
    Highlight.CodeBlock.front? (plainCode info literal ++ rest) =
      some (writtenBlock info literal, '\n' :: rest) := by
  apply Highlight.CodeBlock.front?_eq_some_iff.mpr
  refine ⟨writtenBlock_legal hlabel literal, ?_⟩
  rw [plainCode_eq hmath, List.append_assoc _ ['\n']]
  rfl

theorem highlightedCode_eq [Highlighter] (info literal : Text) :
    highlightedCode info literal =
      Highlight.block (writtenBlock info literal).label (writtenBlock info literal).code ++
        ['\n'] := by
  have hcode : (writtenBlock info literal).code = literal := Text.decodeCode_escapeMarkup literal
  rw [hcode]
  rfl

theorem plainCode_math (literal : Text) :
    plainCode "math" literal =
      '<' :: ("pre><code class=\"language-math\" data-math-style=\"display\">".toList ++
        Text.escapeMarkup literal ++ "</code></pre>\n".toList) := by
  rfl

theorem front?_plainCode_math (literal rest : Text) :
    Highlight.CodeBlock.front? (plainCode "math" literal ++ rest) = none := by
  rw [plainCode_math]
  rfl

/-!
# Parts in which no code begins
-/

theorem avoids_paragraph {content : List Inline} {ending : Text}
    (hcontent : Inline.allHtmlFree content = true) (hending : Ending ending) :
    Text.Avoids Highlight.CodeBlock.opening (paragraphMarkup content ending ++ ['\n']) := by
  have hopening : Highlight.CodeBlock.opening = '<' :: 'p' :: 'r' :: "e><code".toList := rfl
  rw [paragraphMarkup_line, hopening]
  exact Text.Avoids.of_other_tag (by decide) _ (isQuiet_paragraphMarkup hcontent hending)

theorem avoids_plainCode_math (literal : Text) :
    Text.Avoids Highlight.CodeBlock.opening
      ("pre><code class=\"language-math\" data-math-style=\"display\">".toList ++
        Text.escapeMarkup literal ++ "</code></pre>\n".toList) := by
  apply Text.Avoids.of_isQuiet
  apply Text.isQuiet_append _ rfl
  exact Text.isQuiet_append rfl (Text.isQuiet_escapeMarkup literal)

theorem avoids_of_isQuiet {s : Text} (h : Text.isQuiet s = true) :
    Text.Avoids Highlight.CodeBlock.opening s :=
  Text.Avoids.of_isQuiet _ h

end Markdown

namespace Highlight

variable [Highlighter]

theorem page_append_of_avoids {s : Text} (h : Text.Avoids CodeBlock.opening s) (t : Text) :
    page (s ++ t) = s ++ page t := by
  apply CodeBlock.replaceAll_append_of_free
  intro u v hs hne
  cases hfront : CodeBlock.front? (v ++ t) with
  | none =>
      rfl
  | some found =>
      have hsource := (CodeBlock.front?_eq_some_iff.mp hfront).2
      rw [List.append_assoc] at hsource
      exact absurd ⟨_, hsource.symm⟩ (h u v t hs hne)

end Highlight

namespace Markdown

/-!
# Highlighting part by part
-/

theorem endsLine_plainCode (atStart : Bool) (info literal : Text) :
    endsLine atStart (plainCode info literal) = true := by
  exact endsLine_append atStart _ "</code></pre>\n".toList

variable [Highlighter]

theorem highlight_plainCode {info : Text} (hlabel : languageOf info ≠ some []) (literal t : Text) :
    Highlight.page (plainCode info literal ++ t) =
      styledCode info literal ++ Highlight.page t := by
  unfold styledCode
  by_cases hmath : info = "math".toList
  · have hfront := front?_plainCode_math literal t
    rw [if_pos hmath, hmath, plainCode_math, List.cons_append, List.cons_append]
    rw [plainCode_math, List.cons_append] at hfront
    calc
      _ = '<' :: Highlight.page _ := Highlight.CodeBlock.replaceAll_cons _ hfront
      _ = _ :=
        congrArg (List.cons '<') (Highlight.page_append_of_avoids (avoids_plainCode_math literal) t)
  · have hnewline : Highlight.page ('\n' :: t) = '\n' :: Highlight.page t :=
      Highlight.page_append_of_avoids (avoids_of_isQuiet (s := ['\n']) rfl) t
    have hfront := front?_plainCode hmath hlabel literal t
    have hblock := Highlight.CodeBlock.replaceAll_block
      (fun block => Highlight.block block.label block.code) hfront
    rw [if_neg hmath, highlightedCode_eq, Highlight.page, hblock, List.append_assoc]
    exact congrArg (Highlight.block _ _ ++ ·) hnewline

theorem endsLine_styledCode (atStart : Bool) (info literal : Text) :
    endsLine atStart (styledCode info literal) = true := by
  unfold styledCode
  split
  · exact endsLine_plainCode atStart info literal
  · exact endsLine_append atStart _ ['\n']

theorem highlight_printFrom {parts : List Part} (h : AllTame parts) (atStart : Bool) :
    Highlight.page (printFrom plainCode atStart parts) = printFrom styledCode atStart parts := by
  induction parts generalizing atStart with
  | nil =>
      rfl
  | cons part rest ih =>
      rcases List.forall_mem_cons.mp h with ⟨hpart, hrest⟩
      cases part with
      | markup s =>
          rw [printFrom, printFrom, Highlight.page_append_of_avoids (avoids_of_isQuiet hpart),
            ih hrest]
      | freshLine =>
          cases atStart with
          | true =>
              exact ih hrest true
          | false =>
              have hnewline := Highlight.page_append_of_avoids (avoids_of_isQuiet (s := ['\n']) rfl)
                (printFrom plainCode true rest)
              rw [ih hrest] at hnewline
              exact hnewline
      | heading level anchor content =>
          have hline := Text.isQuiet_append hpart (t := ['\n']) rfl
          have hheading := Highlight.page_append_of_avoids (avoids_of_isQuiet hline)
            (printFrom plainCode true rest)
          rw [ih hrest, List.append_assoc, List.append_assoc] at hheading
          exact hheading
      | paragraph content ending =>
          have hparagraph := Highlight.page_append_of_avoids (avoids_paragraph hpart.1 hpart.2)
            (printFrom plainCode true rest)
          rw [ih hrest, List.append_assoc, List.append_assoc] at hparagraph
          exact hparagraph
      | code info literal =>
          rw [printFrom, printFrom, highlight_plainCode hpart, endsLine_plainCode,
            endsLine_styledCode, ih hrest]

theorem highlight_print {parts : List Part} (h : AllTame parts) :
    Highlight.page (print plainCode parts) = print styledCode parts :=
  highlight_printFrom h true

/-- The highlighted page of a document without raw markup is the page on which every
code block, fenced or indented, with a label or with none, and at any depth, is
highlighted from its own text, and everything else is as it was.  Code with the info
string `math` stays as it was, too. -/
theorem highlight_page_read (dialect : Dialect) (source : Text) (anchored : Bool)
    (h : HtmlFree (read dialect source)) :
    Highlight.page (page anchored (read dialect source)) =
      print styledCode (parts anchored (read dialect source)) :=
  highlight_print (parts_read_tame anchored h)

omit [Highlighter] in
theorem highlight_page_read_of_nested_code :
    let _ : Highlighter := Highlighter.wholeCode
    let source : Text := "- ```c++ x\n  foo\n  ```\n\n> > \ta < \"b\" &amp;\n"
    HtmlFree (read Dialect.extra source) ∧
      Highlight.page (page true (read Dialect.extra source)) =
        print styledCode (parts true (read Dialect.extra source)) := by
  intro _ source
  have h : HtmlFree (read Dialect.extra source) := by decide +kernel
  exact ⟨h, highlight_page_read Dialect.extra source true h⟩

example :
    let _ : Highlighter := Highlighter.wholeCode
    Highlight.page (page true (read Dialect.extra "```math\nx\n```\n")) =
      "<pre><code class=\"language-math\" data-math-style=\"display\">x\n</code></pre>\n".toList := by
  decide +kernel

end Markdown
end Folio
