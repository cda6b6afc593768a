import Folio.Proofs.Highlight.CodeBlock

/-!
# Pages cut into code blocks

A page is cut at its first code block, then at the first one behind that, and so on until
no block is left.  There is one such cutting of every page.  The texts kept between the
blocks hold no block themselves, and highlighting a page is putting each block of its
cutting in spans and leaving the texts between them as they are.
-/

namespace Folio
namespace Highlight
namespace CodeBlock

/-!
# The first block of a text
-/

/-- A block as it is written on a page. -/
def source (block : CodeBlock) : Text :=
  match block.label with
  | none => "<pre><code>" ++ block.body ++ "</code></pre>"
  | some label => "<pre><code class=\"language-" ++ label ++ "\">" ++ block.body ++ "</code></pre>"

theorem source_eq (block : CodeBlock) : block.source = opening ++ block.inside := by
  have hunlabelled : "<pre><code>".toList = opening ++ ['>'] := rfl
  have hlabelled : "<pre><code class=\"language-".toList = opening ++ labelStart := rfl
  have hquote : "\">".toList = ['"', '>'] := rfl
  have hending : "</code></pre>".toList = ending := rfl
  unfold source
  cases hlabel : block.label with
  | none =>
      dsimp only
      rw [inside_of_none hlabel, hunlabelled, hending]
      simp only [List.append_assoc, List.cons_append, List.nil_append]
  | some label =>
      dsimp only
      rw [inside_of_label hlabel, hlabelled, hquote, hending]
      simp only [List.append_assoc, List.cons_append, List.nil_append]

theorem source_ne_nil (block : CodeBlock) : block.source ≠ [] := by
  rw [source_eq]
  exact List.cons_ne_nil _ _

theorem front?_eq_some_source_iff {s rest : Text} {block : CodeBlock} :
    front? s = some (block, rest) ↔ block.Legal ∧ s = block.source ++ rest := by
  rw [source_eq]
  exact front?_eq_some_iff

/-- Whether no code block is written in a text. -/
def BlockFree (s : Text) : Prop :=
  forall block : CodeBlock, block.Legal -> ¬ block.source <:+: s

/-- Whether a block is the leftmost one of a text, with the given texts before and behind
it. -/
structure IsFirst (s before : Text) (block : CodeBlock) (rest : Text) : Prop where
  legal : block.Legal
  eq_append : s = before ++ (block.source ++ rest)
  leftmost : forall (other : CodeBlock) (u t : Text), other.Legal ->
    s = u ++ (other.source ++ t) -> before.length ≤ u.length

def next? : Text -> Option (Text × CodeBlock × Text)
  | [] => none
  | c :: s =>
      match front? (c :: s) with
      | some (block, rest) => some ([], block, rest)
      | none => (next? s).map fun (before, block, rest) => (c :: before, block, rest)

theorem blockFree_cons_iff {c : Char} {s : Text} :
    BlockFree (c :: s) ↔ front? (c :: s) = none ∧ BlockFree s := by
  constructor
  · intro h
    refine ⟨?_, fun block hlegal hoccurs =>
      h block hlegal (hoccurs.trans (List.suffix_cons c s).isInfix)⟩
    cases hfront : front? (c :: s) with
    | none =>
        rfl
    | some found =>
        rcases front?_eq_some_source_iff.mp hfront with ⟨hlegal, hsource⟩
        exact absurd ⟨[], found.2, hsource.symm⟩ (h found.1 hlegal)
  · rintro ⟨hfront, hrest⟩ block hlegal hoccurs
    rcases List.infix_cons_iff.mp hoccurs with ⟨rest, hsource⟩ | hbehind
    · rw [front?_eq_some_source_iff.mpr ⟨hlegal, hsource.symm⟩] at hfront
      cases hfront
    · exact hrest block hlegal hbehind

theorem next?_eq_none_iff {s : Text} : next? s = none ↔ BlockFree s := by
  induction s with
  | nil =>
      refine ⟨fun _ block _ hoccurs => ?_, fun _ => rfl⟩
      exact source_ne_nil block (List.infix_nil.mp hoccurs)
  | cons c s ih =>
      rw [blockFree_cons_iff, ← ih, next?]
      cases front? (c :: s) with
      | none =>
          simp
      | some found =>
          simp

theorem isFirst_nil_iff {s rest : Text} {block : CodeBlock} :
    IsFirst s [] block rest ↔ front? s = some (block, rest) := by
  rw [front?_eq_some_source_iff]
  constructor
  · rintro ⟨hlegal, heq, _⟩
    exact ⟨hlegal, heq⟩
  · rintro ⟨hlegal, heq⟩
    exact ⟨hlegal, heq, fun _ _ _ _ _ => Nat.zero_le _⟩

theorem isFirst_cons_iff {c : Char} {s before rest : Text} {block : CodeBlock}
    (hfront : front? (c :: s) = none) :
    IsFirst (c :: s) (c :: before) block rest ↔ IsFirst s before block rest := by
  constructor
  · rintro ⟨hlegal, heq, hleftmost⟩
    refine ⟨hlegal, by simpa using heq, ?_⟩
    intro other u t hother hcut
    have hle := hleftmost other (c :: u) t hother (by rw [hcut, List.cons_append])
    simpa using hle
  · rintro ⟨hlegal, heq, hleftmost⟩
    refine ⟨hlegal, by rw [heq, List.cons_append], ?_⟩
    intro other u t hother hcut
    cases u with
    | nil =>
        rw [front?_eq_some_source_iff.mpr ⟨hother, hcut⟩] at hfront
        cases hfront
    | cons d u =>
        injection hcut with _ hcut
        simpa using hleftmost other u t hother hcut

namespace IsFirst

variable {s before rest : Text} {block : CodeBlock}

theorem ne_nil (h : IsFirst s before block rest) : s ≠ [] := by
  rw [h.eq_append]
  simp [source_ne_nil]

theorem of_cons {c d : Char} (h : IsFirst (c :: s) (d :: before) block rest) :
    c = d ∧ front? (c :: s) = none ∧ IsFirst s before block rest := by
  have heq := h.eq_append
  injection heq with hc _
  subst hc
  have hfront : front? (c :: s) = none := by
    cases hfound : front? (c :: s) with
    | none =>
        rfl
    | some found =>
        rcases front?_eq_some_source_iff.mp hfound with ⟨hlegal, hsource⟩
        have hle := h.leftmost found.1 [] found.2 hlegal hsource
        simp at hle
  exact ⟨rfl, hfront, (isFirst_cons_iff hfront).mp h⟩

theorem length_lt (h : IsFirst s before block rest) : rest.length < s.length := by
  have hpos : 0 < block.source.length := List.length_pos_iff.mpr (source_ne_nil block)
  rw [h.eq_append, List.length_append, List.length_append]
  omega

theorem blockFree (h : IsFirst s before block rest) : BlockFree before := by
  rintro other hother ⟨u, t, hbefore⟩
  have hpos : 0 < other.source.length := List.length_pos_iff.mpr (source_ne_nil other)
  have hcut : s = u ++ (other.source ++ (t ++ (block.source ++ rest))) := by
    rw [h.eq_append, ← hbefore]
    simp only [List.append_assoc]
  have hle := h.leftmost other u _ hother hcut
  rw [← hbefore, List.length_append, List.length_append] at hle
  omega

end IsFirst

theorem next?_eq_some_iff {s before rest : Text} {block : CodeBlock} :
    next? s = some (before, block, rest) ↔ IsFirst s before block rest := by
  induction s generalizing before with
  | nil =>
      constructor
      · intro h
        cases h
      · intro h
        exact absurd rfl h.ne_nil
  | cons c s ih =>
      rw [next?]
      cases hfront : front? (c :: s) with
      | some found =>
          constructor
          · intro h
            cases h
            exact isFirst_nil_iff.mpr hfront
          · intro h
            cases before with
            | nil =>
                have hfound := isFirst_nil_iff.mp h
                rw [hfront] at hfound
                cases hfound
                rfl
            | cons d before =>
                rw [h.of_cons.2.1] at hfront
                cases hfront
      | none =>
          constructor
          · intro h
            rcases Option.map_eq_some_iff.mp h with ⟨⟨more, found, behind⟩, hnext, hpair⟩
            cases hpair
            exact (isFirst_cons_iff hfront).mpr (ih.mp hnext)
          · intro h
            cases before with
            | nil =>
                rw [isFirst_nil_iff.mp h] at hfront
                cases hfront
            | cons d before =>
                rcases h.of_cons with ⟨hc, _, hrest⟩
                rw [ih.mpr hrest, hc]
                rfl

/-!
# Cuttings
-/

/-- The blocks of a page, each with the text kept in front of it, and the text behind the
last one. -/
structure Cutting where
  parts : List (Text × CodeBlock)
  last : Text

namespace Cutting

def add (before : Text) (block : CodeBlock) (cutting : Cutting) : Cutting :=
  { cutting with parts := (before, block) :: cutting.parts }

def fill (f : CodeBlock -> Text) (cutting : Cutting) : Text :=
  (cutting.parts.flatMap fun part => part.1 ++ f part.2) ++ cutting.last

theorem fill_cons (f : CodeBlock -> Text) (before : Text) (block : CodeBlock)
    (parts : List (Text × CodeBlock)) (last : Text) :
    fill f { parts := (before, block) :: parts, last := last } =
      before ++ (f block ++ fill f { parts := parts, last := last }) := by
  simp [fill]

theorem fill_add (f : CodeBlock -> Text) (before : Text) (block : CodeBlock)
    (cutting : Cutting) :
    (cutting.add before block).fill f = before ++ (f block ++ cutting.fill f) :=
  fill_cons f before block cutting.parts cutting.last

end Cutting

/-- Whether a text is cut at its first block, and so is what follows the block; a text
without blocks is kept whole. -/
inductive Cuts : Text -> Cutting -> Prop where
  | last {s : Text} (hfree : BlockFree s) : Cuts s { parts := [], last := s }
  | block {s before rest : Text} {block : CodeBlock} {cutting : Cutting}
      (hfirst : IsFirst s before block rest) (hrest : Cuts rest cutting) :
      Cuts s (cutting.add before block)

def cut (s : Text) : Cutting :=
  match _hnext : next? s with
  | some (before, block, rest) => (cut rest).add before block
  | none => { parts := [], last := s }
termination_by s.length
decreasing_by
  exact (next?_eq_some_iff.mp _hnext).length_lt

theorem cut_of_isFirst {s before rest : Text} {block : CodeBlock}
    (h : IsFirst s before block rest) : cut s = (cut rest).add before block := by
  have hnext := next?_eq_some_iff.mpr h
  rw [cut]
  split
  · rename_i hsome
    rw [hnext] at hsome
    cases hsome
    rfl
  · rename_i hnone
    rw [hnext] at hnone
    cases hnone

theorem cut_of_blockFree {s : Text} (h : BlockFree s) : cut s = { parts := [], last := s } := by
  have hnext := next?_eq_none_iff.mpr h
  rw [cut]
  split
  · rename_i hsome
    rw [hnext] at hsome
    cases hsome
  · rfl

theorem cuts_cut (s : Text) : Cuts s (cut s) := by
  induction s using cut.induct with
  | case1 s before block rest hnext ih =>
      have hfirst := next?_eq_some_iff.mp hnext
      rw [cut_of_isFirst hfirst]
      exact Cuts.block hfirst ih
  | case2 s hnext =>
      have hfree := next?_eq_none_iff.mp hnext
      rw [cut_of_blockFree hfree]
      exact Cuts.last hfree

theorem cuts_iff {s : Text} {cutting : Cutting} : Cuts s cutting ↔ cutting = cut s := by
  constructor
  · intro h
    induction h with
    | last hfree =>
        exact (cut_of_blockFree hfree).symm
    | block hfirst _ ih =>
        rw [cut_of_isFirst hfirst, ih]
  · rintro rfl
    exact cuts_cut s

namespace Cuts

variable {s : Text} {cutting : Cutting}

theorem fill_source (h : Cuts s cutting) : cutting.fill source = s := by
  induction h with
  | last _ =>
      rfl
  | block hfirst _ ih =>
      rw [Cutting.fill_add, ih, hfirst.eq_append]

theorem forall_parts (h : Cuts s cutting) :
    forall part, part ∈ cutting.parts -> part.2.Legal ∧ BlockFree part.1 := by
  induction h with
  | last _ =>
      intro part hpart
      cases hpart
  | block hfirst _ ih =>
      exact List.forall_mem_cons.mpr ⟨⟨hfirst.legal, hfirst.blockFree⟩, ih⟩

theorem blockFree_last (h : Cuts s cutting) : BlockFree cutting.last := by
  induction h with
  | last hfree =>
      exact hfree
  | block _ _ ih =>
      exact ih

end Cuts

/-!
# Replacement along a cutting
-/

theorem replaceAll_of_isFirst (f : CodeBlock -> Text) {s before rest : Text} {block : CodeBlock}
    (h : IsFirst s before block rest) :
    replaceAll f s = before ++ (f block ++ replaceAll f rest) := by
  induction before generalizing s with
  | nil =>
      exact replaceAll_block f (isFirst_nil_iff.mp h)
  | cons d before ih =>
      cases s with
      | nil =>
          exact absurd rfl h.ne_nil
      | cons c s =>
          rcases h.of_cons with ⟨hc, hfront, hrest⟩
          rw [replaceAll_cons f hfront, ih hrest, hc, List.cons_append]

theorem replaceAll_of_blockFree (f : CodeBlock -> Text) {s : Text} (h : BlockFree s) :
    replaceAll f s = s := by
  induction s with
  | nil =>
      rfl
  | cons c s ih =>
      rcases blockFree_cons_iff.mp h with ⟨hfront, hrest⟩
      rw [replaceAll_cons f hfront, ih hrest]

theorem replaceAll_eq_fill (f : CodeBlock -> Text) {s : Text} {cutting : Cutting}
    (h : Cuts s cutting) : replaceAll f s = cutting.fill f := by
  induction h with
  | last hfree =>
      exact replaceAll_of_blockFree f hfree
  | block hfirst _ ih =>
      rw [Cutting.fill_add, replaceAll_of_isFirst f hfirst, ih]

/-!
# Slices
-/

/-- Whether the texts and blocks of a cutting are slices of a page, each beginning where
the one before it ends, from `start` to the end of the page. -/
def SlicesFrom (page : Text) : Nat -> List (Text × CodeBlock) -> Text -> Prop
  | start, [], last => start ≤ page.length ∧ page.drop start = last
  | start, (before, block) :: parts, last =>
      let first := start + before.length
      let stop := first + block.source.length
      stop ≤ page.length ∧ (page.take first).drop start = before ∧
        (page.take stop).drop first = block.source ∧ SlicesFrom page stop parts last

theorem drop_take_append (lead s t : Text) :
    ((lead ++ (s ++ t)).take (lead.length + s.length)).drop lead.length = s := by
  rw [← List.append_assoc, ← List.length_append, List.take_left', List.drop_left]
  rfl

theorem slicesFrom_of_fill (lead : Text) (parts : List (Text × CodeBlock)) (last : Text) :
    SlicesFrom (lead ++ Cutting.fill source { parts := parts, last := last }) lead.length parts
      last := by
  induction parts generalizing lead with
  | nil =>
      simp [SlicesFrom, Cutting.fill]
  | cons part parts ih =>
      rcases part with ⟨before, block⟩
      have hstop : lead.length + before.length + block.source.length =
          (lead ++ before ++ block.source).length := by
        simp only [List.length_append]
      have hpage : lead ++ (before ++ (block.source ++
            Cutting.fill source { parts := parts, last := last })) =
          lead ++ before ++ block.source ++
            Cutting.fill source { parts := parts, last := last } := by
        simp only [List.append_assoc]
      rw [Cutting.fill_cons, SlicesFrom]
      refine ⟨?_, drop_take_append lead before _, ?_, ?_⟩
      · rw [hpage, List.length_append, hstop]
        exact Nat.le_add_right _ _
      · have hblock := drop_take_append (lead ++ before) block.source
          (Cutting.fill source { parts := parts, last := last })
        rw [List.length_append] at hblock
        simpa only [List.append_assoc] using hblock
      · rw [hstop, hpage]
        exact ih (lead ++ before ++ block.source)

end CodeBlock

/-!
# Highlighting along a cutting
-/

/-- A page has one cutting into texts without blocks and legal blocks, each of them the
leftmost one behind the block before it.  The texts and blocks are slices of the page in
their order, and highlighting the page replaces each block by its code in spans. -/
theorem page_eq_fill_cut [Highlighter] (html : Text) :
    exists cutting : CodeBlock.Cutting,
      (forall other, CodeBlock.Cuts html other ↔ other = cutting) ∧
      cutting.fill CodeBlock.source = html ∧
      (forall part, part ∈ cutting.parts -> part.2.Legal ∧ CodeBlock.BlockFree part.1) ∧
      CodeBlock.BlockFree cutting.last ∧
      CodeBlock.SlicesFrom html 0 cutting.parts cutting.last ∧
      page html = cutting.fill fun b => block b.label (Text.decodeCode b.body) := by
  have hcuts := CodeBlock.cuts_cut html
  have hslices := CodeBlock.slicesFrom_of_fill [] (CodeBlock.cut html).parts
    (CodeBlock.cut html).last
  refine ⟨CodeBlock.cut html, fun other => CodeBlock.cuts_iff, hcuts.fill_source,
    hcuts.forall_parts, hcuts.blockFree_last, ?_, CodeBlock.replaceAll_eq_fill _ hcuts⟩
  have hpage : [] ++ (CodeBlock.cut html).fill CodeBlock.source = html := hcuts.fill_source
  rw [hpage] at hslices
  exact hslices

end Highlight
end Folio
