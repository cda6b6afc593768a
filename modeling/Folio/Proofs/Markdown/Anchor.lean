import Mathlib.Data.List.Nodup
import Mathlib.Data.List.Perm.Subperm
import Folio.Conversion
import Folio.Proofs.Markdown.Part
import Folio.Proofs.Text.Tag
import Folio.Proofs.Toc.Outline

/-!
# Anchors of a page

The headings of a document are collected for its table of contents, and they are
printed with anchors when the document becomes a page.  Both go through the
document on their own, and both give out free anchors as they go.  The anchors
come out the same, in the same order, and no anchor is given out twice.
-/

namespace Folio
namespace Markdown

/-!
# Fresh anchors
-/

namespace Anchors

theorem ofNat_injective {m n : Nat} (h : Text.ofNat m = Text.ofNat n) : m = n := by
  have hread := congrArg (fun digits => Nat.ofDigitChars 10 digits 0) h
  simpa [Text.ofNat] using hread

theorem candidate_injective (base : Text) : Function.Injective (candidate base) := by
  intro m n h
  cases m with
  | zero =>
      cases n with
      | zero =>
          rfl
      | succ n =>
          simp [candidate] at h
  | succ m =>
      cases n with
      | zero =>
          simp [candidate] at h
      | succ n =>
          have htail := List.append_cancel_left h
          injection htail with _ hdigits
          exact ofNat_injective hdigits

theorem exists_candidate_not_mem (used : Anchors) (base : Text) :
    ¬ (List.range (used.length + 1)).map (candidate base) ⊆ used := by
  intro hsubset
  have hnodup : ((List.range (used.length + 1)).map (candidate base)).Nodup :=
    List.Nodup.map (candidate_injective base) List.nodup_range
  have hle := (List.subperm_of_subset hnodup hsubset).length_le
  rw [List.length_map, List.length_range] at hle
  omega

/-- The search from candidate `n` on finds a free one when all candidates before
`n` are taken and the fuel counts the anchors that are left. -/
theorem firstFree_not_mem (used : Anchors) (base : Text) (n fuel : Nat)
    (hlength : n + fuel = used.length)
    (htaken : (List.range n).map (candidate base) ⊆ used) :
    firstFree used base n fuel ∉ used := by
  induction fuel generalizing n with
  | zero =>
      intro hmem
      change candidate base n ∈ used at hmem
      apply exists_candidate_not_mem used base
      rw [← hlength, Nat.add_zero, List.range_succ, List.map_append]
      exact List.append_subset.mpr ⟨htaken, by simpa using hmem⟩
  | succ fuel ih =>
      rw [firstFree]
      by_cases hmem : candidate base n ∈ used
      · rw [if_pos (by simpa using hmem)]
        apply ih (n + 1) (by omega)
        rw [List.range_succ, List.map_append]
        exact List.append_subset.mpr ⟨htaken, by simpa using hmem⟩
      · rw [if_neg (by simpa using hmem)]
        exact hmem

theorem assign_not_mem (used : Anchors) (s : Text) : used.assign s ∉ used := by
  apply firstFree_not_mem used (slug s) 0 used.length (Nat.zero_add _)
  simp

end Anchors

/-!
# Characters of anchors

Anchors have anchor characters and digits alone, so that nothing in them has a meaning
in markup.
-/

section Characters

variable {c : Char} (hanchor : isAnchorChar c = false)

include hanchor

theorem not_mem_slug (s : Text) : c ∉ slug s := by
  intro hmem
  rcases List.mem_map.mp hmem with ⟨d, hd, heq⟩
  split at heq
  · rw [← heq] at hanchor
    cases hanchor
  · rw [heq] at hd
    have hkept := (List.mem_filter.mp hd).2
    rw [hanchor] at hkept
    cases hkept

namespace Anchors

variable (hdigit : c.isDigit = false)

include hdigit

theorem not_mem_candidate {base : Text} (h : c ∉ base) (n : Nat) : c ∉ candidate base n := by
  cases n with
  | zero =>
      exact h
  | succ n =>
      have hdash : c ≠ '-' := by
        intro heq
        rw [heq] at hanchor
        cases hanchor
      have hnumber := Text.not_mem_ofNat hdigit (n + 1)
      simp [candidate, h, hdash, hnumber]

theorem not_mem_firstFree (used : Anchors) {base : Text} (h : c ∉ base) (n fuel : Nat) :
    c ∉ firstFree used base n fuel := by
  induction fuel generalizing n with
  | zero =>
      exact not_mem_candidate hanchor hdigit h n
  | succ fuel ih =>
      rw [firstFree]
      split
      · exact ih (n + 1)
      · exact not_mem_candidate hanchor hdigit h n

theorem not_mem_assign (used : Anchors) (s : Text) : c ∉ used.assign s :=
  not_mem_firstFree hanchor hdigit used (not_mem_slug hanchor s) 0 used.length

end Anchors

end Characters

/-!
# Collected anchors

Collecting headings puts their anchors, the latest first, in front of those that
were taken before, and keeps all anchors distinct.
-/

structure Collects (used : Anchors) (collected : List Toc.Heading × Anchors) : Prop where
  anchors : collected.2 = (collected.1.map Toc.Heading.id).reverse ++ used
  nodup : used.Nodup -> collected.2.Nodup

namespace Collects

theorem none (used : Anchors) : Collects used ([], used) where
  anchors := by simp
  nodup := id

theorem heading (used : Anchors) (level : Nat) (name s : Text) :
    Collects used
      ([{ level := level, id := used.assign s, name := name }], used.assign s :: used) where
  anchors := by simp
  nodup := fun hused => List.nodup_cons.mpr ⟨used.assign_not_mem s, hused⟩

theorem append {used : Anchors} {first others : List Toc.Heading × Anchors}
    (hfirst : Collects used first) (hothers : Collects first.2 others) :
    Collects used (first.1 ++ others.1, others.2) where
  anchors := by
    rw [hothers.anchors, hfirst.anchors, List.map_append, List.reverse_append,
      List.append_assoc]
  nodup := fun hused => hothers.nodup (hfirst.nodup hused)

end Collects

mutual

theorem blockHeadings_collects :
    forall (block : Block) (used : Anchors), Collects used (blockHeadings used block)
  | Block.heading level content, used => by
      rw [blockHeadings]
      exact Collects.heading used level _ _
  | Block.quote content, used => by
      rw [blockHeadings]
      exact blocksHeadings_collects content used
  | Block.list _ _ items, used => by
      rw [blockHeadings]
      exact blocksHeadings_collects items used
  | Block.item content, used => by
      rw [blockHeadings]
      exact blocksHeadings_collects content used
  | Block.definitions content, used => by
      rw [blockHeadings]
      exact blocksHeadings_collects content used
  | Block.details _ content, used => by
      rw [blockHeadings]
      exact blocksHeadings_collects content used
  | Block.note _ _ content, used => by
      rw [blockHeadings]
      exact blocksHeadings_collects content used
  | Block.paragraph _, used => Collects.none used
  | Block.code _ _, used => Collects.none used
  | Block.html _, used => Collects.none used
  | Block.rule, used => Collects.none used
  | Block.table _ _, used => Collects.none used
  | Block.term _, used => Collects.none used

theorem blocksHeadings_collects :
    forall (blocks : List Block) (used : Anchors), Collects used (blocksHeadings used blocks)
  | [], used => Collects.none used
  | block :: rest, used =>
      Collects.append (blockHeadings_collects block used)
        (blocksHeadings_collects rest (blockHeadings used block).2)

end

theorem headings_nodup (document : Document) :
    ((headings document).map Toc.Heading.id).Nodup := by
  have hcollects := blocksHeadings_collects document []
  have hnodup := hcollects.nodup List.nodup_nil
  rw [hcollects.anchors, List.append_nil, List.nodup_reverse] at hnodup
  exact hnodup

/-!
# Printed anchors
-/

namespace Part

def anchor? : Part -> Option (Nat × Text)
  | heading level (some id) _ => some (level, id)
  | _ => none

end Part

/-- The anchors of the headings that a row of parts prints, with their levels. -/
def anchorsOf (parts : List Part) : List (Nat × Text) :=
  parts.filterMap Part.anchor?

theorem anchorsOf_append (parts others : List Part) :
    anchorsOf (parts ++ others) = anchorsOf parts ++ anchorsOf others := by
  exact List.filterMap_append

theorem anchor?_eq_none_of_isBare (part : Part) (h : part.isBare = true) :
    part.anchor? = none := by
  cases part with
  | markup s =>
      rfl
  | freshLine =>
      rfl
  | heading level anchor content =>
      cases h
  | paragraph content ending =>
      cases h
  | code info literal =>
      cases h

structure Agrees (printed : List Part × Trail) (collected : List Toc.Heading × Anchors) :
    Prop where
  headings : anchorsOf printed.1 = collected.1.map fun heading => (heading.level, heading.id)
  anchors : printed.2.anchors = collected.2

namespace Agrees

theorem none {parts : List Part} (hparts : anchorsOf parts = []) {trail : Trail}
    {used : Anchors} (htrail : trail.anchors = used) : Agrees (parts, trail) ([], used) where
  headings := hparts
  anchors := htrail

theorem append {first others : List Part × Trail} {upper lower : List Toc.Heading × Anchors}
    (hfirst : Agrees first upper) (hothers : Agrees others lower) :
    Agrees (first.1 ++ others.1, others.2) (upper.1 ++ lower.1, lower.2) where
  headings := by
    rw [anchorsOf_append, hfirst.headings, hothers.headings, List.map_append]
  anchors := hothers.anchors

theorem around {printed : List Part × Trail} {collected : List Toc.Heading × Anchors}
    (h : Agrees printed collected) {opening closing : List Part} {trail : Trail}
    (hopening : anchorsOf opening = []) (hclosing : anchorsOf closing = [])
    (htrail : trail.anchors = printed.2.anchors) :
    Agrees (opening ++ printed.1 ++ closing, trail) collected where
  headings := by
    rw [anchorsOf_append, anchorsOf_append, hopening, hclosing, h.headings, List.nil_append,
      List.append_nil]
  anchors := htrail.trans h.anchors

end Agrees

theorem anchors_of_backLinks {trail trail' : Trail} {name links : Text} {calls : Nat}
    (h : trail.backLinks name calls = some (links, trail')) : trail'.anchors = trail.anchors := by
  rw [(Trail.eq_of_backLinks h).2]

theorem paragraphParts_agrees (tight : Bool) (noteEnd : NoteEnd) (trail : Trail)
    (content : List Inline) :
    Agrees (paragraphParts tight noteEnd trail content) ([], trail.anchors) := by
  unfold paragraphParts
  split
  · exact Agrees.none rfl rfl
  · split
    · exact Agrees.none rfl rfl
    · split
      · rename_i hlinks
        exact Agrees.none rfl (anchors_of_backLinks hlinks)
      · exact Agrees.none rfl rfl

mutual

theorem blockParts_agrees :
    forall (block : Block) (tight : Bool) (noteEnd : NoteEnd) (trail : Trail),
      Agrees (blockParts true tight noteEnd trail block) (blockHeadings trail.anchors block)
  | Block.heading _ _, _, _, _ => ⟨rfl, rfl⟩
  | Block.paragraph content, tight, noteEnd, trail =>
      paragraphParts_agrees tight noteEnd trail content
  | Block.code _ _, _, _, _ => Agrees.none rfl rfl
  | Block.html _, _, _, _ => Agrees.none rfl rfl
  | Block.rule, _, _, _ => Agrees.none rfl rfl
  | Block.term _, _, _, _ => Agrees.none rfl rfl
  | Block.table columns rows, _, _, _ =>
      Agrees.none (filterMap_tableParts anchor?_eq_none_of_isBare columns rows) rfl
  | Block.quote content, _, _, trail => by
      rw [blockParts, blockHeadings]
      exact (blocksParts_agrees content false none trail).around rfl rfl rfl
  | Block.list _ isTight items, _, _, trail => by
      rw [blockParts, blockHeadings]
      exact (blocksParts_agrees items isTight none trail).around rfl rfl rfl
  | Block.item content, tight, _, trail => by
      rw [blockParts, blockHeadings]
      exact (blocksParts_agrees content tight none trail).around rfl rfl rfl
  | Block.definitions content, _, _, trail => by
      rw [blockParts, blockHeadings]
      exact (blocksParts_agrees content false none trail).around rfl rfl rfl
  | Block.details isTight content, _, _, trail => by
      rw [blockParts, blockHeadings]
      exact (blocksParts_agrees content isTight none trail).around rfl rfl rfl
  | Block.note name calls content, _, _, trail => by
      have hcontent := blocksParts_agrees content false (some (name, calls))
        { trail with notes := trail.notes + 1 }
      rw [blockParts, blockHeadings]
      apply hcontent.around
      · split <;> rfl
      · rfl
      · split
        · rename_i hlinks
          exact anchors_of_backLinks hlinks
        · rfl

theorem blocksParts_agrees :
    forall (blocks : List Block) (tight : Bool) (noteEnd : NoteEnd) (trail : Trail),
      Agrees (blocksParts true tight noteEnd trail blocks) (blocksHeadings trail.anchors blocks)
  | [], _, _, _ => Agrees.none rfl rfl
  | block :: rest, tight, noteEnd, trail => by
      have hfirst := blockParts_agrees block tight (if rest.isEmpty then noteEnd else none) trail
      have hrest := blocksParts_agrees rest tight noteEnd
        (blockParts true tight (if rest.isEmpty then noteEnd else none) trail block).2
      rw [hfirst.anchors] at hrest
      exact hfirst.append hrest

end

/-- Whether a page has the given anchors, one behind the other, each at the start of
a heading of its level. -/
def ShowsAnchors : List (Nat × Text) -> Text -> Prop
  | [], _ => True
  | (level, id) :: rest, s =>
      exists before after : Text,
        s = before ++ ("<h" ++ Text.ofNat level ++ ">" ++ anchorMarkup id) ++ after ∧
          ShowsAnchors rest after

theorem showsAnchors_append {anchors : List (Nat × Text)} {s : Text} (h : ShowsAnchors anchors s)
    (t : Text) : ShowsAnchors anchors (t ++ s) := by
  cases anchors with
  | nil =>
      trivial
  | cons anchor rest =>
      rcases h with ⟨before, after, hs, hrest⟩
      exact ⟨t ++ before, after, by simp [hs], hrest⟩

theorem showsAnchors_printFrom (code : Text -> Text -> Text) (atStart : Bool)
    (parts : List Part) : ShowsAnchors (anchorsOf parts) (printFrom code atStart parts) := by
  induction parts generalizing atStart with
  | nil =>
      trivial
  | cons part rest ih =>
      cases part with
      | markup s =>
          exact showsAnchors_append (ih _) s
      | freshLine =>
          cases atStart with
          | true =>
              exact ih true
          | false =>
              exact showsAnchors_append (ih true) ['\n']
      | heading level anchor content =>
          have hrest := showsAnchors_append (ih true) ['\n']
          cases anchor with
          | none =>
              exact showsAnchors_append hrest _
          | some id =>
              refine ⟨[], Inline.markupAll content ++ "</h" ++ Text.ofNat level ++ ">" ++
                '\n' :: printFrom code true rest, ?_, showsAnchors_append hrest _⟩
              have hmarkup : headingMarkup level (some id) content =
                  "<h" ++ Text.ofNat level ++ ">" ++ anchorMarkup id ++
                    Inline.markupAll content ++ "</h" ++ Text.ofNat level ++ ">" := rfl
              rw [printFrom, hmarkup]
              simp only [List.append_assoc, List.nil_append]
      | paragraph content ending =>
          exact showsAnchors_append (showsAnchors_append (ih true) ['\n']) _
      | code info literal =>
          exact showsAnchors_append (ih _) _

theorem anchorsOf_parts (document : Document) :
    anchorsOf (parts true document) =
      (headings document).map fun heading => (heading.level, heading.id) := by
  have hagrees := blocksParts_agrees document false none Trail.start
  simp only [parts]
  split
  · exact hagrees.headings
  · rw [anchorsOf_append, hagrees.headings]
    exact List.append_nil _

end Markdown

/-!
# Anchors and the table of contents
-/

namespace Settings

/-- The anchors that the page shows are those of the collected headings, no two of
them are equal, and the table of contents links to the ones whose level is in
range, in the order of the page. -/
theorem anchors_convert [Highlighter] (settings : Settings) (source : Text)
    (htoc : settings.has Extension.toc = true) :
    let document := Markdown.read settings.dialect source
    let printed := Markdown.anchorsOf (Markdown.parts (settings.has Extension.toc) document)
    Markdown.ShowsAnchors printed (Markdown.page (settings.has Extension.toc) document) ∧
      (Markdown.headings document).map Toc.Heading.id = printed.map Prod.snd ∧
      (printed.map Prod.snd).Nodup ∧
      (Toc.preorderAll (settings.convert source).headings).map Toc.Heading.id =
        (printed.filter fun (level, _) =>
          settings.toc.minLevel ≤ level && level ≤ settings.toc.maxLevel).map Prod.snd := by
  intro document printed
  have hprinted : printed =
      (Markdown.headings document).map fun heading => (heading.level, heading.id) := by
    rw [← Markdown.anchorsOf_parts document, ← htoc]
  have hids : printed.map Prod.snd = (Markdown.headings document).map Toc.Heading.id := by
    rw [hprinted, List.map_map]
    rfl
  have hforest : (settings.convert source).headings =
      Toc.nest settings.toc (Markdown.headings document) := by
    simp only [convert, headings, htoc, if_true]
    rfl
  refine ⟨Markdown.showsAnchors_printFrom _ _ _, hids.symm, ?_, ?_⟩
  · rw [hids]
    exact Markdown.headings_nodup document
  · rw [hforest, Toc.nest_eq_outline, Toc.preorderAll_outline, hprinted, List.filter_map,
      List.map_map]
    rfl

theorem anchors_convert_of_equal_names :
    let _ : Highlighter := Highlighter.wholeCode
    let source : Text := "# Notes\n\n## Notes\n"
    default.has Extension.toc = true ∧
      Markdown.ShowsAnchors [(1, "notes"), (2, "notes-1")]
        (Markdown.page true (Markdown.read default.dialect source)) ∧
      (Toc.preorderAll (default.convert source).headings).map Toc.Heading.id =
        ["notes".toList, "notes-1".toList] := by
  intro _ source
  have htoc : default.has Extension.toc = true := by decide
  have hprinted : Markdown.anchorsOf (Markdown.parts true (Markdown.read default.dialect source)) =
      [(1, "notes".toList), (2, "notes-1".toList)] := by decide +kernel
  have h := anchors_convert default source htoc
  dsimp only at h
  rw [htoc, hprinted] at h
  exact ⟨htoc, h.1, h.2.2.2⟩

end Settings
end Folio
