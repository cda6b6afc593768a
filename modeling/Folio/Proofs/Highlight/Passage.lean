import Folio.Proofs.Highlight.CodeBlock
import Folio.Proofs.Highlight.Label
import Folio.Proofs.Text.Tag

/-!
# Passages

A passage is a text between tags of its own, such as a printed paragraph.  Where
a page is highlighted a passage stays as it is: no code block begins in it, and a
block that begins before it ends before it, unless the label of the block holds
the whole passage.  What comes before and after a passage does not depend on what
the passage says.
-/

namespace Folio
namespace Highlight
namespace CodeBlock

/-!
# Paragraph tags in written blocks
-/

theorem isQuiet_ending {body : Text} (h : '<' ∉ body) :
    Text.isQuiet ('>' :: (body ++ ending)) = true := by
  have hbody : Text.isQuiet ('>' :: body) = true := by
    apply Text.isQuiet_of_not_mem
    simp [h]
  exact Text.isQuiet_append hbody (t := ending) rfl

theorem label_of_tag {block : CodeBlock} (hlegal : block.Legal) {before z : Text}
    (h : block.inside = before ++ '<' :: 'p' :: z) :
    exists lead more, more ≠ [] ∧ block.label = some (lead ++ more) ∧
      before = labelStart ++ lead ∧
      '<' :: 'p' :: z = more ++ '"' :: '>' :: (block.body ++ ending) := by
  have hending := isQuiet_ending hlegal.body
  cases hlabel : block.label with
  | none =>
      rw [inside_of_none hlabel] at h
      rw [h, Text.not_isQuiet_tag] at hending
      cases hending
  | some label =>
      rw [inside_of_label hlabel] at h
      rcases Text.append_eq_of_isQuiet (w := labelStart) rfl h with ⟨lead, hbefore, htail⟩
      rcases List.append_eq_append_iff.mp htail with ⟨more, hlead, hbehind⟩ | ⟨more, hmore, hz⟩
      · have hquiet : Text.isQuiet ('"' :: '>' :: (block.body ++ ending)) = true :=
          Text.isQuiet_append (s := ['"']) rfl hending
        rw [hbehind, Text.not_isQuiet_tag] at hquiet
        cases hquiet
      · refine ⟨lead, more, ?_, by rw [hmore], hbefore, hz⟩
        intro hnil
        rw [hnil] at hz
        injection hz with hbracket _
        cases hbracket

theorem inside_of_tag {block : CodeBlock} {before z : Text} (hne : before ≠ [])
    (h : opening ++ block.inside = before ++ '<' :: 'p' :: z) :
    exists more, before = opening ++ more ∧ block.inside = more ++ '<' :: 'p' :: z := by
  cases before with
  | nil =>
      exact absurd rfl hne
  | cons c before =>
      have hopening : opening = '<' :: "pre><code".toList := rfl
      rw [hopening, List.cons_append, List.cons_append] at h
      injection h with hc hrest
      rcases Text.append_eq_of_isQuiet (w := "pre><code".toList) rfl hrest with
        ⟨more, hbefore, hinside⟩
      exact ⟨more, by rw [hbefore, hopening, ← hc, List.cons_append], hinside⟩

theorem getLast?_source (block : CodeBlock) :
    (opening ++ block.inside).getLast? = some '>' := by
  have hending : ending = "</code></pre".toList ++ ['>'] := rfl
  have hsource : opening ++ block.inside =
      (opening ++ (labelMarkup block.label ++ '>' :: block.body ++ "</code></pre".toList)) ++
        ['>'] := by
    rw [inside, hending]
    simp only [List.append_assoc, List.cons_append]
  rw [hsource, List.getLast?_concat]

theorem front?_before_tag {block : CodeBlock} {rest before z : Text} (hne : before ≠ [])
    (h : front? (before ++ '<' :: 'p' :: z) = some (block, rest)) :
    (exists more, before = opening ++ block.inside ++ more ∧
        rest = more ++ '<' :: 'p' :: z) ∨
      exists lead more, more ≠ [] ∧ block.label = some (lead ++ more) ∧
        before = opening ++ (labelStart ++ lead) ∧
        '<' :: 'p' :: z = more ++ '"' :: '>' :: (block.body ++ ending) ++ rest := by
  rcases front?_eq_some_iff.mp h with ⟨hlegal, hsource⟩
  rcases List.append_eq_append_iff.mp hsource.symm with ⟨more, hbefore, hrest⟩ | ⟨more, hsplit, hz⟩
  · exact Or.inl ⟨more, hbefore, hrest⟩
  · match more, hsplit, hz with
    | [], hsplit, hz =>
        exact Or.inl ⟨[], by simpa using hsplit.symm, by simpa using hz.symm⟩
    | [c], hsplit, hz =>
        injection hz with hc _
        have hlast := getLast?_source block
        rw [hsplit, ← hc, List.getLast?_concat] at hlast
        cases hlast
    | c :: d :: more, hsplit, hz =>
        injection hz with hc hz
        injection hz with hd hz
        subst hc
        subst hd
        rcases inside_of_tag hne hsplit with ⟨behind, hbefore, hinside⟩
        rcases label_of_tag hlegal hinside with ⟨lead, inner, hinner, hlabel, hbehind, htag⟩
        refine Or.inr ⟨lead, inner, hinner, hlabel, by rw [hbefore, hbehind], ?_⟩
        calc
          '<' :: 'p' :: z = ('<' :: 'p' :: more) ++ rest := by rw [hz]; rfl
          _ = inner ++ '"' :: '>' :: (block.body ++ ending) ++ rest := by rw [htag]

/-!
# Passages
-/

/-- A text that begins with a paragraph tag and in which no block begins. -/
structure Passage (q : Text) : Prop where
  opens : exists z, q = '<' :: 'p' :: '>' :: z
  free : forall u v, q = u ++ v -> v ≠ [] -> forall t, front? (v ++ t) = none

theorem Passage.of_isQuiet {z : Text} (h : Text.isQuiet ('p' :: '>' :: z) = true) :
    Passage ('<' :: 'p' :: '>' :: z) where
  opens := ⟨z, rfl⟩
  free := by
    intro u v hq hne t
    cases hfront : front? (v ++ t) with
    | none =>
        rfl
    | some found =>
        have hopening : opening = '<' :: 'p' :: "re><code".toList := rfl
        have hsource := (front?_eq_some_iff.mp hfront).2
        rw [hopening] at hsource
        cases u with
        | nil =>
            rw [List.nil_append] at hq
            rw [← hq] at hsource
            injection hsource with _ hsource
            injection hsource with _ hsource
            injection hsource with hc _
            cases hc
        | cons c u =>
            injection hq with _ hq
            rw [hq] at h
            exact absurd (Text.eq_nil_of_isQuiet (Text.isQuiet_of_append h) hsource) hne

/-- Whether no label can end in a text: its first quote is not followed by the end
of a tag. -/
def Sealed (q : Text) : Prop :=
  exists u c x, q = u ++ '"' :: c :: x ∧ '"' ∉ u ∧ c ≠ '>'

theorem label_through {more q after tail : Text} (hq : '"' ∉ q)
    (h : q ++ after = more ++ '"' :: tail) :
    exists behind, more = q ++ behind ∧ after = behind ++ '"' :: tail :=
  Text.append_eq_of_not_mem hq h

theorem not_sealed_of_label {more q after tail : Text} (hmore : '"' ∉ more)
    (h : q ++ after = more ++ '"' :: '>' :: tail) : ¬ Sealed q := by
  rintro ⟨u, c, x, rfl, hu, hc⟩
  have hcut : u ++ ('"' :: c :: (x ++ after)) = more ++ '"' :: '>' :: tail := by
    simpa using h
  rcases Text.append_eq_of_not_mem hu hcut with ⟨behind, hbehind, htail⟩
  cases behind with
  | nil =>
      injection htail with _ htail
      injection htail with heq _
      exact hc heq
  | cons d behind =>
      injection htail with hd _
      apply hmore
      simp [hbehind, ← hd]

theorem front?_of_label_around {lead q behind body : Text} (hne : q ≠ [])
    (hquote : '"' ∉ lead ++ q ++ behind) (hbody : '<' ∉ body) (rest : Text) :
    front? (opening ++ (labelStart ++ lead) ++
        (q ++ (behind ++ '"' :: '>' :: (body ++ ending ++ rest)))) =
      some ({ label := some (lead ++ q ++ behind), body := body }, rest) := by
  apply front?_eq_some_iff.mpr
  refine ⟨⟨hbody, ?_⟩, ?_⟩
  · intro label hsome
    injection hsome with heq
    rw [← heq]
    exact ⟨by simp [hne], hquote⟩
  · rw [inside_of_label rfl]
    simp

section Families

variable {f : CodeBlock -> Text} {q : Text -> Text}

/-- A block in front of one passage of a family is there for all of them: it ends
before the passage, or its label holds the passage. -/
theorem front?_before_passage (hpassage : forall t, Passage (q t))
    (hquotes : (forall t, '"' ∉ q t) ∨ (forall t, Sealed (q t)))
    {before after rest : Text} {block : CodeBlock} {t : Text} (hne : before ≠ [])
    (h : front? (before ++ (q t ++ after)) = some (block, rest)) :
    (exists more, more.length < before.length ∧
        forall t', front? (before ++ (q t' ++ after)) = some (block, more ++ (q t' ++ after))) ∨
      exists lead behind, forall t', front? (before ++ (q t' ++ after)) =
        some ({ block with label := some (lead ++ q t' ++ behind) }, rest) := by
  rcases front?_eq_some_iff.mp h with ⟨hlegal, _⟩
  rcases (hpassage t).opens with ⟨z, hz⟩
  have htag : front? (before ++ '<' :: 'p' :: '>' :: (z ++ after)) = some (block, rest) := by
    simpa [hz] using h
  rcases front?_before_tag hne htag with
    ⟨more, hbefore, _⟩ | ⟨lead, more, _, hlabel, hbefore, hbehind⟩
  · refine Or.inl ⟨more, ?_, ?_⟩
    · have hopening : 0 < opening.length := Nat.zero_lt_succ 9
      rw [hbefore, List.length_append, List.length_append]
      omega
    · intro t'
      apply front?_eq_some_iff.mpr
      exact ⟨hlegal, by rw [hbefore, List.append_assoc]⟩
  · have hmore : '"' ∉ more := by
      intro hmem
      exact (hlegal.label _ hlabel).2 (List.mem_append_right lead hmem)
    have hcut : q t ++ after = more ++ '"' :: '>' :: (block.body ++ ending ++ rest) := by
      rw [hz]
      simpa using hbehind
    rcases hquotes with hfree | hsealed
    · rcases label_through (hfree t) hcut with ⟨behind, hmoreEq, hafter⟩
      refine Or.inr ⟨lead, behind, ?_⟩
      intro t'
      have hquote : '"' ∉ lead ++ q t' ++ behind := by
        have hlead := (hlegal.label _ hlabel).2
        rw [hmoreEq] at hlead
        simp only [List.mem_append, not_or] at hlead ⊢
        exact ⟨⟨hlead.1, hfree t'⟩, hlead.2.2⟩
      have hne : q t' ≠ [] := by
        rcases (hpassage t').opens with ⟨z', hz'⟩
        simp [hz']
      rw [hbefore, hafter]
      exact front?_of_label_around hne hquote hlegal.body rest
    · exact absurd (hsealed t) (not_sealed_of_label hmore hcut)

/-- Highlighting goes around a passage: what comes before it and what comes after
it are the same for every passage of a family. -/
theorem replaceAll_around_passage (hpassage : forall t, Passage (q t))
    (hquotes : (forall t, '"' ∉ q t) ∨ (forall t, Sealed (q t)))
    (hlabel : forall lead behind body, exists l r, forall t,
      f { label := some (lead ++ q t ++ behind), body := body } = l ++ q t ++ r)
    (before after : Text) :
    exists l r, forall t, replaceAll f (before ++ (q t ++ after)) = l ++ q t ++ r := by
  induction hlength : before.length using Nat.strongRecOn generalizing before with
  | ind n ih =>
      cases before with
      | nil =>
          refine ⟨[], replaceAll f after, ?_⟩
          intro t
          exact replaceAll_append_of_free f after fun u v hq hne => (hpassage t).free u v hq hne after
      | cons c before =>
          by_cases hfound : exists t block rest,
              front? (c :: before ++ (q t ++ after)) = some (block, rest)
          · rcases hfound with ⟨t, block, rest, hfront⟩
            rcases front?_before_passage hpassage hquotes (List.cons_ne_nil c before) hfront with
              ⟨more, hlt, hall⟩ | ⟨lead, behind, hall⟩
            · rcases ih more.length (by omega) more rfl with ⟨l, r, hmore⟩
              refine ⟨f block ++ l, r, ?_⟩
              intro t'
              rw [replaceAll_block f (hall t'), hmore t']
              simp
            · rcases hlabel lead behind block.body with ⟨l, r, hblock⟩
              refine ⟨l, r ++ replaceAll f rest, ?_⟩
              intro t'
              rw [replaceAll_block f (hall t'), hblock t']
              simp
          · have hnone : forall t, front? (c :: (before ++ (q t ++ after))) = none := by
              intro t
              cases hfront : front? (c :: (before ++ (q t ++ after))) with
              | none =>
                  rfl
              | some found =>
                  exact absurd ⟨t, found.1, found.2, hfront⟩ hfound
            rcases ih before.length (by simp [← hlength]) before rfl with ⟨l, r, hrest⟩
            refine ⟨c :: l, r, ?_⟩
            intro t
            rw [List.cons_append, replaceAll_cons f (hnone t), hrest t]
            rfl

end Families

end CodeBlock

/-!
# Highlighted pages

No language goes by a label with an angle bracket, so that a block whose label
holds a passage is printed as plain text, whatever the passage says.
-/

variable [Highlighter]

theorem block_of_bracket {label : Text} (h : '<' ∈ label) (code : Text) :
    block (some label) code =
      "<div class=\"codehilite\"><pre><code".toList ++ " class=\"language-".toList ++ label ++
        (['"', '>'] ++ markup Language.plain code ++ "</code></pre></div>".toList) := by
  have hplain : languageOf (some label) = Language.plain := Language.ofLabel_of_bracket h
  have hlabel : labelMarkup (some label) = " class=\"language-".toList ++ label ++ ['"'] := rfl
  have hmarkup : block (some label) code =
      "<div class=\"codehilite\"><pre><code".toList ++ labelMarkup (some label) ++ ['>'] ++
        markup (languageOf (some label)) code ++ "</code></pre></div>".toList := rfl
  rw [hmarkup, hplain, hlabel]
  simp only [List.append_assoc, List.cons_append, List.nil_append]

theorem page_around_passage {q : Text -> Text} (hpassage : forall t, CodeBlock.Passage (q t))
    (hquotes : (forall t, '"' ∉ q t) ∨ (forall t, CodeBlock.Sealed (q t)))
    (before after : Text) :
    exists l r, forall t, page (before ++ (q t ++ after)) = l ++ q t ++ r := by
  apply CodeBlock.replaceAll_around_passage hpassage hquotes
  intro lead behind body
  refine ⟨"<div class=\"codehilite\"><pre><code".toList ++ " class=\"language-".toList ++ lead,
    behind ++
      (['"', '>'] ++ markup Language.plain (Text.decodeCode body) ++ "</code></pre></div>".toList),
    ?_⟩
  intro t
  have hbracket : '<' ∈ lead ++ q t ++ behind := by
    rcases (hpassage t).opens with ⟨z, hz⟩
    simp [hz]
  have hblock := block_of_bracket hbracket (Text.decodeCode body)
  simp only [List.append_assoc] at hblock ⊢
  exact hblock

end Highlight
end Folio
