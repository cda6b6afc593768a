import Folio.Proofs.Highlight.Cutting
import Folio.Proofs.Highlight.Page
import Folio.Proofs.Highlight.Spans

/-!
# Highlighting twice

A page that has been highlighted is highlighted once more.  No block is found in the texts
that were kept: one that begins there and runs on would have to hold the tag in front of
the next highlighted block in its label, and the quotes of the tag end every label.  A
highlighted block is found again only if its code is empty, for other code begins with a
span; an empty block is wrapped a second time.  Highlighting twice is therefore the same
as highlighting once exactly when no block of the page is empty.
-/

namespace Folio
namespace Highlight

/-!
# Highlighted blocks
-/

def wrapperOpening : Text :=
  "<div class=\"codehilite\">"

def wrapperEnding : Text :=
  "</div>"

/-- Whether no label of a block, if it has one, has an angle bracket. -/
def HasPlainLabel (block : CodeBlock) : Prop :=
  forall label, block.label = some label -> '<' ∉ label

section Blocks

variable [Highlighter]

def insideWrapper (label : Option Text) (code : Text) : Text :=
  "pre><code".toList ++ (labelMarkup label ++ '>' :: (markup (languageOf label) code ++
    CodeBlock.ending))

theorem block_eq (label : Option Text) (code : Text) :
    block label code =
      wrapperOpening ++ '<' :: (insideWrapper label code ++ wrapperEnding) := by
  have hstart : "<div class=\"codehilite\"><pre><code".toList =
      wrapperOpening ++ '<' :: "pre><code".toList := by decide
  have hclose : ">".toList = ['>'] := rfl
  have hending : "</code></pre></div>".toList = CodeBlock.ending ++ wrapperEnding := rfl
  unfold block insideWrapper
  rw [hstart, hclose, hending]
  simp only [List.append_assoc, List.cons_append, List.nil_append]

theorem block_of_empty (h : Highlighter.Lawful) (label : Option Text) :
    block label [] =
      wrapperOpening ++ (CodeBlock.source { label := label, body := [] } ++ wrapperEnding) := by
  have hopening : CodeBlock.opening = '<' :: "pre><code".toList := rfl
  rw [block_eq, CodeBlock.source_eq, CodeBlock.inside, hopening]
  unfold insideWrapper
  rw [markup_of_empty h]
  simp only [List.append_assoc, List.cons_append, List.nil_append]

theorem isQuiet_insideWrapper (hspans : Highlighter.WritesSpans) {label : Option Text}
    (h : forall written, label = some written -> '<' ∉ written) (code : Text) :
    Text.isQuiet (insideWrapper label code ++ wrapperEnding) = true := by
  have hquiet := (spanMarkup_markup hspans label code).isQuiet
  have hmarkup := Text.isQuiet_append hquiet (t := CodeBlock.ending) rfl
  have hbody := Text.isQuiet_append (s := ['>']) rfl hmarkup
  have hwritten := isQuiet_labelMarkup fun written hlabel => Text.isQuiet_of_not_mem (h written hlabel)
  have hlabel := Text.isQuiet_append hwritten hbody
  have htag := Text.isQuiet_append (s := "pre><code".toList) rfl hlabel
  exact Text.isQuiet_append htag rfl

end Blocks

/-!
# In front of a highlighted block
-/

namespace CodeBlock

theorem source_ends (block : CodeBlock) : exists more, block.source = more ++ "</pre>".toList := by
  have hending : ending = "</code>".toList ++ "</pre>".toList := rfl
  refine ⟨opening ++ (labelMarkup block.label ++ '>' :: block.body ++ "</code>".toList), ?_⟩
  rw [source_eq, inside, hending]
  simp only [List.append_assoc, List.cons_append]

theorem not_source_ends_in_wrapper {block : CodeBlock} {v w more : Text} (hw : w ≠ [])
    (hwrapper : wrapperOpening = w ++ more) : block.source ≠ v ++ w := by
  intro hsource
  rcases source_ends block with ⟨lead, hlead⟩
  rcases List.eq_nil_or_concat' w with rfl | ⟨w', c, rfl⟩
  · exact hw rfl
  have hpre : "</pre>".toList = "</pre".toList ++ ['>'] := rfl
  have hopening : wrapperOpening = "<div class=\"codehilite\"".toList ++ ['>'] := rfl
  have hends : (lead ++ "</pre".toList) ++ ['>'] = (v ++ w') ++ [c] := by
    rw [List.append_assoc, ← hpre, ← hlead, hsource, List.append_assoc]
  rcases List.append_inj' hends rfl with ⟨hbefore, hlast⟩
  injection hlast with hc _
  subst hc
  have htag : "<div class=\"codehilite\"".toList ++ ['>'] = w' ++ '>' :: more := by
    rw [← hopening, hwrapper, List.append_assoc]
    rfl
  rcases Text.append_eq_of_not_mem (by decide) htag with ⟨rest, hw', hrest⟩
  cases rest with
  | cons d rest =>
      simp at hrest
  | nil =>
      have hquote : "<div class=\"codehilite\"".toList = "<div class=\"codehilite".toList ++ ['"'] :=
        rfl
      have hletter : "</pre".toList = "</pr".toList ++ ['e'] := rfl
      rw [hw', List.append_nil, hquote, hletter, ← List.append_assoc, ← List.append_assoc] at hbefore
      have hchar := (List.append_inj' hbefore rfl).2
      simp at hchar

theorem label_not_in_wrapper {v lead : Text} (hquote : '"' ∉ lead) :
    v ++ wrapperOpening ≠ opening ++ (labelStart ++ lead) := by
  intro h
  have hopening : wrapperOpening = "<div class=\"codehilite".toList ++ '"' :: ['>'] := rfl
  have hlabel : labelStart = " class=".toList ++ '"' :: "language-".toList := rfl
  have hcut : (v ++ "<div class=\"codehilite".toList) ++ '"' :: ['>'] =
      (opening ++ " class=".toList) ++ '"' :: ("language-".toList ++ lead) := by
    rw [List.append_assoc, ← hopening, h, hlabel]
    simp only [List.append_assoc, List.cons_append]
  have hquotes : '"' ∉ "language-".toList ++ lead := by
    simp [hquote]
  have htail := Text.behind_eq_of_not_mem (by decide) hquotes hcut
  have hlength := congrArg List.length htail
  simp at hlength

theorem source_prefix_of_front? {block : CodeBlock} {v z rest : Text}
    (h : front? (v ++ (wrapperOpening ++ '<' :: 'p' :: z)) = some (block, rest)) :
    block.source <+: v := by
  have hne : v ++ wrapperOpening ≠ [] := List.append_ne_nil_of_right_ne_nil v (List.cons_ne_nil _ _)
  rw [← List.append_assoc] at h
  have hlegal := (front?_eq_some_iff.mp h).1
  rcases front?_before_tag hne h with ⟨more, hbefore, _⟩ | ⟨lead, more, _, hlabel, hbefore, _⟩
  · rw [← source_eq] at hbefore
    rcases List.append_eq_append_iff.mp hbefore with ⟨w, hsource, hwrapper⟩ | ⟨w, hv, _⟩
    · by_cases hw : w = []
      · rw [hw, List.append_nil] at hsource
        exact ⟨[], by rw [hsource, List.append_nil]⟩
      · exact absurd hsource (not_source_ends_in_wrapper hw hwrapper)
    · exact ⟨w, hv.symm⟩
  · have hquote : '"' ∉ lead := by
      intro hmem
      exact (hlegal.label _ hlabel).2 (List.mem_append_left more hmem)
    exact absurd hbefore (label_not_in_wrapper hquote)

/-!
# Blocks of a page
-/

theorem code_eq_nil_iff (b : CodeBlock) : b.code = [] ↔ b.body = [] := by
  unfold code Text.decodeCode
  cases b.body with
  | nil =>
      exact iff_of_true rfl rfl
  | cons c s =>
      have hne : Text.decodeWithin (s.length + 1) (c :: s) ≠ [] := by
        unfold Text.decodeWithin
        split
        · exact List.cons_ne_nil c s
        · rename_i htext
          cases htext
        · split
          · exact List.cons_ne_nil _ _
          · exact List.cons_ne_nil _ _
        · exact List.cons_ne_nil _ _
      exact iff_of_false hne (List.cons_ne_nil c s)

namespace Cutting

def blocks (cutting : Cutting) : List CodeBlock :=
  cutting.parts.map Prod.snd

theorem fill_congr {f g : CodeBlock -> Text} {cutting : Cutting}
    (h : forall b, b ∈ cutting.blocks -> f b = g b) : cutting.fill f = cutting.fill g := by
  have hparts : (cutting.parts.flatMap fun part => part.1 ++ f part.2) =
      cutting.parts.flatMap fun part => part.1 ++ g part.2 := by
    apply List.flatMap_congr
    intro part hpart
    rw [h part.2 (List.mem_map_of_mem hpart)]
  rw [fill, fill, hparts]

end Cutting

end CodeBlock

section Pages

variable [Highlighter]

theorem page_before_block {before : Text} (hfree : CodeBlock.BlockFree before)
    (label : Option Text) (code t : Text) :
    page (before ++ (block label code ++ t)) = before ++ page (block label code ++ t) := by
  apply CodeBlock.replaceAll_append_of_free
  intro u v hbefore _
  cases hfront : CodeBlock.front? (v ++ (block label code ++ t)) with
  | none =>
      rfl
  | some found =>
      have htag : block label code ++ t =
          wrapperOpening ++ '<' :: 'p' :: ("re><code".toList ++ (labelMarkup label ++
            '>' :: (markup (languageOf label) code ++ CodeBlock.ending)) ++ wrapperEnding ++ t) := by
        have hpre : "pre><code".toList = 'p' :: "re><code".toList := rfl
        rw [block_eq]
        unfold insideWrapper
        rw [hpre]
        simp only [List.append_assoc, List.cons_append]
      have hlegal := (CodeBlock.front?_eq_some_iff.mp hfront).1
      rw [htag] at hfront
      have hbegins := CodeBlock.source_prefix_of_front? hfront
      have hsuffix : v <:+ before := ⟨u, hbefore.symm⟩
      exact absurd (hbegins.isInfix.trans hsuffix.isInfix) (hfree found.1 hlegal)

/-!
# A highlighted block on the second pass
-/

theorem page_wrapperOpening (t : Text) :
    page (wrapperOpening ++ t) = wrapperOpening ++ page t :=
  page_append_of_avoids (Markdown.avoids_of_isQuiet rfl) t

theorem page_wrapperEnding (t : Text) : page (wrapperEnding ++ t) = wrapperEnding ++ page t :=
  page_append_of_avoids (Markdown.avoids_of_isQuiet rfl) t

theorem front?_insideWrapper (h : Highlighter.Lawful) {b : CodeBlock} (hlegal : b.Legal)
    {code : Text} (hcode : code ≠ []) (t : Text) :
    CodeBlock.front? ('<' :: (insideWrapper b.label code ++ t)) = none := by
  rcases markup_begins h b.label hcode with ⟨more, hmarkup⟩
  have hopening : '<' :: (insideWrapper b.label code ++ t) =
      CodeBlock.opening ++ (labelMarkup b.label ++ '>' ::
        ("<span".toList ++ (more ++ CodeBlock.ending ++ t))) := by
    have htag : CodeBlock.opening = '<' :: "pre><code".toList := rfl
    unfold insideWrapper
    rw [hmarkup, htag]
    simp only [List.append_assoc, List.cons_append]
  rw [hopening, CodeBlock.front?, Text.after?_append]
  dsimp only
  rw [CodeBlock.rest?_labelMarkup hlegal.label]
  rfl

def again (b : CodeBlock) : Text :=
  if b.body = [] then
    wrapperOpening ++ (block b.label b.code ++ wrapperEnding)
  else
    block b.label b.code

theorem page_block (h : Highlighter.Lawful) {b : CodeBlock} (hlegal : b.Legal)
    (hlabel : HasPlainLabel b) (t : Text) :
    page (block b.label b.code ++ t) = again b ++ page t := by
  unfold again
  by_cases hbody : b.body = []
  · have hcode : b.code = [] := (CodeBlock.code_eq_nil_iff b).mpr hbody
    have hfront : CodeBlock.front? (b.source ++ (wrapperEnding ++ t)) =
        some (b, wrapperEnding ++ t) :=
      CodeBlock.front?_eq_some_source_iff.mpr ⟨hlegal, rfl⟩
    have hempty : { label := b.label, body := [] } = b := by
      rw [← hbody]
    have hfound : page (b.source ++ (wrapperEnding ++ t)) =
        block b.label b.code ++ page (wrapperEnding ++ t) :=
      CodeBlock.replaceAll_block _ hfront
    rw [if_pos hbody]
    calc
      page (block b.label b.code ++ t)
          = page (wrapperOpening ++ (b.source ++ (wrapperEnding ++ t))) := by
            rw [hcode, block_of_empty h, hempty]
            simp only [List.append_assoc]
      _ = wrapperOpening ++ (block b.label b.code ++ (wrapperEnding ++ page t)) := by
            rw [page_wrapperOpening, hfound, page_wrapperEnding]
      _ = wrapperOpening ++ (block b.label b.code ++ wrapperEnding) ++ page t := by
            simp only [List.append_assoc]
  · have hcode : b.code ≠ [] := fun hnil => hbody ((CodeBlock.code_eq_nil_iff b).mp hnil)
    have hfront := front?_insideWrapper h hlegal hcode (wrapperEnding ++ t)
    have hquiet := Markdown.avoids_of_isQuiet (isQuiet_insideWrapper h.spans hlabel b.code)
    rw [if_neg hbody, block_eq, List.append_assoc, page_wrapperOpening, List.cons_append]
    rw [← List.append_assoc] at hfront
    have hbracket : page ('<' :: (insideWrapper b.label b.code ++ wrapperEnding ++ t)) =
        '<' :: page (insideWrapper b.label b.code ++ wrapperEnding ++ t) :=
      CodeBlock.replaceAll_cons _ hfront
    rw [hbracket, page_append_of_avoids hquiet]
    simp only [List.append_assoc, List.cons_append]

/-!
# A highlighted page on the second pass
-/

theorem page_fill (h : Highlighter.Lawful) {html : Text} {cutting : CodeBlock.Cutting}
    (hcuts : CodeBlock.Cuts html cutting)
    (hlabels : forall b, b ∈ cutting.blocks -> HasPlainLabel b) :
    page (cutting.fill fun b => block b.label b.code) = cutting.fill again := by
  induction hcuts with
  | last hfree =>
      exact CodeBlock.replaceAll_of_blockFree _ hfree
  | block hfirst _ ih =>
      rcases List.forall_mem_cons.mp hlabels with ⟨hlabel, hrest⟩
      rw [CodeBlock.Cutting.fill_add, CodeBlock.Cutting.fill_add,
        page_before_block hfirst.blockFree, page_block h hfirst.legal hlabel, ih hrest]

theorem length_again (b : CodeBlock) :
    (again b).length = (block b.label b.code).length + if b.body = [] then 30 else 0 := by
  have hopening : wrapperOpening.length = 24 := rfl
  have hending : wrapperEnding.length = 6 := rfl
  unfold again
  split
  · rw [List.length_append, List.length_append, hopening, hending]
    omega
  · rfl

theorem length_fill_again (cutting : CodeBlock.Cutting) :
    (cutting.fill again).length =
      (cutting.fill fun b => block b.label b.code).length +
        30 * cutting.blocks.countP fun b => b.body = [] := by
  rcases cutting with ⟨parts, last⟩
  induction parts with
  | nil =>
      rfl
  | cons part parts ih =>
      rcases part with ⟨before, b⟩
      have hcount : (CodeBlock.Cutting.blocks { parts := (before, b) :: parts, last := last }).countP
            (fun b => b.body = []) =
          (CodeBlock.Cutting.blocks { parts := parts, last := last }).countP
              (fun b => b.body = []) + if b.body = [] then 1 else 0 := by
        simp [CodeBlock.Cutting.blocks, List.countP_cons]
      rw [CodeBlock.Cutting.fill_cons, CodeBlock.Cutting.fill_cons, hcount]
      simp only [List.length_append, ih, length_again]
      split <;> omega

/-- Where no block of a page has an angle bracket in its label, a second pass leaves the
highlighted page as it is exactly when no block of the page is empty. -/
theorem page_page_eq_iff (hlawful : Highlighter.Lawful) {html : Text}
    (h : forall b, b ∈ (CodeBlock.cut html).blocks -> HasPlainLabel b) :
    page (page html) = page html ↔
      forall b, b ∈ (CodeBlock.cut html).blocks -> b.body ≠ [] := by
  have hcuts := CodeBlock.cuts_cut html
  have hfirst : page html = (CodeBlock.cut html).fill fun b => block b.label b.code :=
    CodeBlock.replaceAll_eq_fill _ hcuts
  rw [hfirst, page_fill hlawful hcuts h]
  constructor
  · intro heq
    have hlength := length_fill_again (CodeBlock.cut html)
    rw [heq] at hlength
    have hnone : ((CodeBlock.cut html).blocks.countP fun b => b.body = []) = 0 := by
      omega
    intro b hb hempty
    have hnot := List.countP_eq_zero.mp hnone b hb
    simp [hempty] at hnot
  · intro hfilled
    refine CodeBlock.Cutting.fill_congr ?_
    intro b hb
    exact if_neg (hfilled b hb)

end Pages

/-- The page begins with an opening that no block follows. -/
theorem page_page_eq_of_unfinished_opening :
    let _ : Highlighter := Highlighter.wholeCode
    let html : Text :=
      "<pre><code class=\"language-x<pre><code class=\"language-c\">foo\n</code></pre>"
    Highlighter.Lawful ∧ (forall b, b ∈ (CodeBlock.cut html).blocks -> HasPlainLabel b) ∧
      page (page html) = page html := by
  intro _ html
  have hfirst : CodeBlock.IsFirst html "<pre><code class=\"language-x".toList
      { label := some ['c'], body := "foo\n".toList } [] :=
    CodeBlock.next?_eq_some_iff.mp (by decide +kernel)
  have hlast : CodeBlock.BlockFree [] := CodeBlock.next?_eq_none_iff.mp rfl
  have hcut := CodeBlock.cuts_iff.mp (CodeBlock.Cuts.block hfirst (CodeBlock.Cuts.last hlast))
  have hblocks : (CodeBlock.cut html).blocks =
      [{ label := some ['c'], body := "foo\n".toList }] := by
    rw [← hcut]
    rfl
  have hlabels : forall b, b ∈ (CodeBlock.cut html).blocks -> HasPlainLabel b := by
    rw [hblocks]
    intro b hb label hlabel
    rw [List.mem_singleton.mp hb] at hlabel
    injection hlabel with hlabel
    rw [← hlabel]
    decide
  have hlawful := Highlighter.lawful_wholeCode
  refine ⟨hlawful, hlabels, (page_page_eq_iff hlawful hlabels).mpr ?_⟩
  rw [hblocks]
  intro b hb
  rw [List.mem_singleton.mp hb]
  decide

/-- An empty block is wrapped on every pass. -/
example :
    let _ : Highlighter := Highlighter.wholeCode
    page (page "<pre><code></code></pre>") =
      "<div class=\"codehilite\"><div class=\"codehilite\"><pre><code></code></pre></div></div>".toList := by
  decide +kernel

end Highlight
end Folio
