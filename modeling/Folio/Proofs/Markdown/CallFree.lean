import Folio.Proofs.Markdown.BlockElement
import Folio.Proofs.Markdown.Dialect

/-!
# Documents without notes

Where brackets may not call notes, the reader of running text makes no calls.  It only
ever puts down pieces that have no calls in them, or have those of the pieces that they
are made of.  So no row of pieces has any, after one step and after all steps.  Nor are
there notes among the blocks of a dialect without notes.
-/

namespace Folio
namespace Markdown

namespace Inline

theorem callIdsAll_merge (content : List Inline) :
    callIdsAll (merge content) = callIdsAll content := by
  induction content using merge.induct with
  | case1 =>
      rfl
  | case2 s rest more others hmerge ih =>
      rw [hmerge] at ih
      rw [merge, hmerge]
      exact ih
  | case3 s rest hmerge ih =>
      rw [merge]
      split
      · rename_i more others heq
        exact (hmerge more others heq).elim
      · exact ih
  | case4 inline rest htext ih =>
      rw [merge, callIdsAll, callIdsAll, ih]
      exact htext

theorem callIdsAll_eq_nil {content : List Inline}
    (h : forall inline, inline ∈ content -> inline.callIds = []) : callIdsAll content = [] := by
  induction content with
  | nil =>
      rfl
  | cons inline rest ih =>
      rw [List.forall_mem_cons] at h
      rw [callIdsAll, h.1, ih h.2]
      rfl

end Inline

/-!
# Emphasis
-/

namespace Piece

def CallFree (pieces : List Piece) : Prop :=
  forall piece, piece ∈ pieces -> piece.toInline.callIds = []

namespace CallFree

theorem nil : CallFree [] := by
  intro piece hpiece
  cases hpiece

theorem cons {piece : Piece} {pieces : List Piece} (hpiece : piece.toInline.callIds = [])
    (hpieces : CallFree pieces) : CallFree (piece :: pieces) :=
  List.forall_mem_cons.mpr ⟨hpiece, hpieces⟩

theorem append {pieces others : List Piece} (h : CallFree pieces) (hothers : CallFree others) :
    CallFree (pieces ++ others) :=
  List.forall_mem_append.mpr ⟨h, hothers⟩

theorem mono {pieces others : List Piece} (h : CallFree pieces)
    (hsub : forall piece, piece ∈ others -> piece ∈ pieces) : CallFree others :=
  fun piece hpiece => h piece (hsub piece hpiece)

end CallFree

theorem splitOpener_eq_some {closer found : Run} {pieces inner outer : List Piece}
    (h : splitOpener closer pieces = some (inner, found, outer)) :
    pieces = inner ++ run found :: outer := by
  induction pieces using splitOpener.induct closer generalizing inner with
  | case1 =>
      cases h
  | case2 r rest hopens =>
      rw [splitOpener, if_pos hopens] at h
      cases h
      rfl
  | case3 r rest hopens ih =>
      rw [splitOpener, if_neg hopens, Option.map_eq_some_iff] at h
      rcases h with ⟨⟨between, _, _⟩, hsplit, heq⟩
      cases heq
      rw [ih hsplit]
      rfl
  | case4 piece rest hrun ih =>
      rw [splitOpener, Option.map_eq_some_iff] at h
      · rcases h with ⟨⟨between, _, _⟩, hsplit, heq⟩
        cases heq
        rw [ih hsplit]
        rfl
      · exact hrun

theorem callIdsAll_settle {pieces : List Piece} (h : CallFree pieces) :
    Inline.callIdsAll (settle pieces) = [] := by
  rw [settle, Inline.callIdsAll_merge]
  apply Inline.callIdsAll_eq_nil
  intro inline hinline
  rcases List.mem_map.mp hinline with ⟨piece, hpiece, rfl⟩
  exact h piece (List.mem_reverse.mp hpiece)

theorem callFree_enclose (count : Nat) {inner : List Piece} (h : CallFree inner) :
    (enclose count inner).toInline.callIds = [] := by
  unfold enclose
  split
  · exact callIdsAll_settle h
  · exact callIdsAll_settle h

theorem callFree_ofRun (r : Run) : CallFree (ofRun r) := by
  unfold ofRun
  split
  · exact CallFree.nil
  · exact CallFree.cons rfl CallFree.nil

theorem callFree_pair (fuel : Nat) {seen rest : List Piece} (hseen : CallFree seen)
    (hrest : CallFree rest) : CallFree (pair fuel seen rest) := by
  induction fuel generalizing seen rest with
  | zero =>
      exact (hrest.mono fun _ => List.mem_reverse.mp).append hseen
  | succ fuel ih =>
      cases rest with
      | nil =>
          exact hseen
      | cons piece rest =>
          rcases List.forall_mem_cons.mp hrest with ⟨hpiece, hafter⟩
          have hkept := ih (CallFree.cons hpiece hseen) hafter
          cases piece with
          | node inline | opener image followed inside =>
              exact hkept
          | run closer =>
              rw [pair]
              split
              · split
                · rename_i inner found outer hsplit
                  rw [splitOpener_eq_some hsplit] at hseen
                  rcases List.forall_mem_append.mp hseen with ⟨hinner, hfound⟩
                  have houter := (List.forall_mem_cons.mp hfound).2
                  exact ih
                    ((CallFree.cons (callFree_enclose _ hinner) (callFree_ofRun _)).append houter)
                    ((callFree_ofRun _).append hafter)
                · exact hkept
              · exact hkept

theorem callIdsAll_emphasize {pieces : List Piece} (h : CallFree pieces) :
    Inline.callIdsAll (emphasize pieces) = [] :=
  callIdsAll_settle (callFree_pair _ CallFree.nil (h.mono fun _ => List.mem_reverse.mp))

end Piece

/-!
# Elements of running text
-/

namespace InlineState

open Piece (CallFree)

variable {st : InlineState}

@[simp]
theorem pieces_skip (n : Nat) (st : InlineState) : (st.skip n).pieces = st.pieces := by
  induction n generalizing st with
  | zero =>
      rfl
  | succ n ih =>
      rw [skip]
      split
      · rfl
      · rw [ih]

@[simp]
theorem pieces_moveTo (st : InlineState) (rest : Text) : (st.moveTo rest).pieces = st.pieces :=
  pieces_skip _ st

theorem callFree_pushNode {inline : Inline} (h : CallFree st.pieces) (hinline : inline.callIds = []) :
    CallFree (st.pushNode inline).pieces :=
  CallFree.cons hinline h

theorem callFree_pushText (s : Text) (h : CallFree st.pieces) :
    CallFree (st.pushText s).pieces := by
  unfold pushText
  split
  · exact h
  · exact callFree_pushNode h rfl

theorem callFree_skipText (n : Nat) (s : Text) (h : CallFree st.pieces) :
    CallFree ((st.skip n).pushText s).pieces := by
  apply callFree_pushText
  rw [pieces_skip]
  exact h

theorem callFree_newline (rest : Text) (h : CallFree st.pieces) :
    CallFree (st.newline rest).pieces := by
  unfold newline
  apply callFree_pushNode
  · rw [pieces_skip]
    exact h
  · split
    · rfl
    · rfl

theorem callFree_backslash (rest : Text) (h : CallFree st.pieces) :
    CallFree (st.backslash rest).pieces := by
  unfold backslash
  split
  · apply callFree_pushNode _ rfl
    rw [pieces_skip]
    exact h
  · split
    · exact callFree_skipText 2 _ h
    · exact callFree_skipText 1 _ h
  · exact callFree_skipText 1 _ h

theorem callFree_ampersand (rest : Text) (h : CallFree st.pieces) :
    CallFree (st.ampersand rest).pieces := by
  unfold ampersand
  split
  · apply callFree_pushText
    rw [pieces_moveTo]
    exact h
  · exact callFree_skipText 1 _ h

theorem callFree_plain (h : CallFree st.pieces) : CallFree st.plain.pieces :=
  callFree_skipText _ _ h

theorem callFree_backticks (h : CallFree st.pieces) : CallFree st.backticks.pieces := by
  unfold backticks
  dsimp only
  split
  · apply callFree_pushNode _ rfl
    rw [pieces_moveTo]
    exact h
  · exact callFree_skipText _ _ h

/-!
# Raw markup
-/

theorem callFree_html (rest : Text) (h : CallFree st.pieces) :
    CallFree (st.html rest).pieces := by
  apply callFree_pushNode _ rfl
  rw [pieces_moveTo]
  exact h

theorem callFree_autolink (scheme inside rest : Text) (h : CallFree st.pieces) :
    CallFree (st.autolink scheme inside rest).pieces := by
  apply callFree_pushNode _ rfl
  rw [pieces_moveTo]
  exact h

theorem callFree_giveUp (unclosed : Unclosed) (h : CallFree st.pieces) :
    CallFree (st.giveUp unclosed).pieces :=
  callFree_skipText 1 _ h

theorem callFree_declaration (s : Text) (h : CallFree st.pieces) :
    CallFree (st.declaration s).pieces := by
  have htext := callFree_skipText 1 ['<'] h
  unfold declaration
  dsimp only
  split
  · exact htext
  · split
    · exact callFree_html _ h
    · exact callFree_html _ h
    · split
      · exact callFree_html _ h
      · exact callFree_giveUp _ h
    · split
      · exact htext
      · split
        · exact htext
        · split
          · exact callFree_html _ h
          · exact callFree_giveUp _ h
    · split
      · exact htext
      · split
        · exact htext
        · split
          · exact callFree_html _ h
          · exact callFree_giveUp _ h

theorem callFree_instruction (body : Text) (h : CallFree st.pieces) :
    CallFree (st.instruction body).pieces := by
  unfold instruction
  split
  · exact callFree_skipText 1 _ h
  · split
    · exact callFree_html _ h
    · exact callFree_giveUp _ h

theorem callFree_angleBracket (inside : Text) (h : CallFree st.pieces) :
    CallFree (st.angleBracket inside).pieces := by
  unfold angleBracket
  split
  · exact callFree_autolink _ _ _ h
  · split
    · exact callFree_autolink _ _ _ h
    · split
      · exact callFree_declaration _ h
      · exact callFree_instruction _ h
      · split
        · exact callFree_html _ h
        · exact callFree_skipText 1 _ h

/-!
# Marks and brackets
-/

theorem callFree_emphasisRun (mark : Char) (h : CallFree st.pieces) :
    CallFree (st.emphasisRun mark).pieces := by
  unfold emphasisRun
  dsimp only
  split
  · apply CallFree.cons rfl
    rw [pieces_skip]
    exact h
  · exact callFree_skipText _ _ h

theorem callFree_markFollowed {pieces : List Piece} (h : CallFree pieces) :
    CallFree (markFollowed pieces) := by
  induction pieces using markFollowed.induct with
  | case1 =>
      exact h
  | case2 image followed inside rest =>
      rcases List.forall_mem_cons.mp h with ⟨hopener, hrest⟩
      exact CallFree.cons hopener hrest
  | case3 piece rest hopener ih =>
      rcases List.forall_mem_cons.mp h with ⟨hpiece, hrest⟩
      rw [markFollowed]
      · exact CallFree.cons hpiece (ih hrest)
      · exact hopener

theorem callFree_openBracket (image : Bool) (rest : Text) (h : CallFree st.pieces) :
    CallFree (st.openBracket image rest).pieces := by
  have hopener : (Piece.opener image false rest).toInline.callIds = [] := rfl
  exact CallFree.cons hopener (callFree_markFollowed h)

theorem splitBracket_eq_some {pieces inner outer : List Piece} {image followed : Bool}
    {inside : Text} (h : splitBracket pieces = some (inner, (image, followed, inside), outer)) :
    pieces = inner ++ Piece.opener image followed inside :: outer := by
  induction pieces using splitBracket.induct generalizing inner with
  | case1 =>
      cases h
  | case2 image followed inside rest =>
      cases h
      rfl
  | case3 piece rest hopener ih =>
      rw [splitBracket, Option.map_eq_some_iff] at h
      · rcases h with ⟨⟨between, _, _⟩, hsplit, heq⟩
        cases heq
        rw [ih hsplit]
        rfl
      · exact hopener

theorem callFree_closeBracket {context : InlineContext} (hnotes : context.notes = false)
    (rest : Text) (h : CallFree st.pieces) : CallFree (st.closeBracket context rest).pieces := by
  unfold closeBracket
  cases hsplit : splitBracket st.pieces with
  | none =>
      exact callFree_skipText 1 _ h
  | some found =>
      rcases found with ⟨inner, ⟨image, followed, inside⟩, outer⟩
      rw [splitBracket_eq_some hsplit] at h
      rcases List.forall_mem_append.mp h with ⟨hinner, hopener⟩
      have houter := (List.forall_mem_cons.mp hopener).2
      have hplain : CallFree (Piece.node (Inline.text [']']) ::
          inner ++ Piece.node (Inline.text (if image then "![" else "[")) :: outer) :=
        (CallFree.cons rfl hinner).append (CallFree.cons rfl houter)
      dsimp only
      split
      · exact hplain
      · split
        · rename_i destination title behind _
          apply CallFree.cons _ houter
          cases image with
          | true =>
              rfl
          | false =>
              exact Piece.callIdsAll_emphasize hinner
        · rw [hnotes]
          exact hplain

/-!
# The reader
-/

theorem callFree_step {context : InlineContext} (hnotes : context.notes = false)
    (h : CallFree st.pieces) : CallFree (st.step context).pieces := by
  unfold step
  split
  · exact h
  · exact callFree_newline _ h
  · exact callFree_backticks h
  · exact callFree_backslash _ h
  · exact callFree_ampersand _ h
  · exact callFree_angleBracket _ h
  · exact callFree_emphasisRun _ h
  · exact callFree_emphasisRun _ h
  · exact callFree_openBracket _ _ h
  · exact callFree_closeBracket hnotes _ h
  · exact callFree_skipText 1 _ h
  · exact callFree_openBracket _ _ h
  · exact callFree_skipText 1 _ h
  · exact callFree_plain h

theorem callFree_run {context : InlineContext} (hnotes : context.notes = false) (fuel : Nat)
    (h : CallFree st.pieces) : CallFree (run context fuel st).pieces := by
  induction fuel generalizing st with
  | zero =>
      exact h
  | succ fuel ih =>
      rw [run]
      split
      · exact h
      · exact ih (callFree_step hnotes h)

end InlineState

theorem callIdsAll_readInlines {context : InlineContext} (hnotes : context.notes = false)
    (s : Text) : Inline.callIdsAll (readInlines context s) = [] := by
  apply Piece.callIdsAll_emphasize
  exact InlineState.callFree_run hnotes _ Piece.CallFree.nil

/-!
# Documents
-/

namespace Node

theorem rows_callIdsAll {context : InlineContext} (hnotes : context.notes = false)
    (children : List Node) :
    (children.map fun child => row context child.children).flatMap
      (fun cells => cells.flatMap Inline.callIdsAll) = [] := by
  simp only [List.flatMap_eq_nil_iff, List.mem_map]
  rintro cells ⟨child, _, rfl⟩ content hcontent
  rcases List.mem_map.mp hcontent with ⟨cell, _, rfl⟩
  exact callIdsAll_readInlines hnotes cell.text

section Notes

variable {context : InlineContext} {dialect : Dialect}

mutual

theorem noteIds_toBlock (hcalls : context.notes = false) (hnotes : dialect.notes = false) :
    forall (node : Node), node.IsOf dialect ->
      (toBlock context node).preorder.flatMap Block.noteIds = []
  | node kind s _ children, IsOf.node hkind hchildren => by
      have hown := callIdsAll_readInlines hcalls
      cases kind with
      | paragraph _ | heading _ _ =>
          rw [toBlock, Block.preorder, List.flatMap_singleton, Block.noteIds]
          exact hown s
      | term =>
          rw [toBlock, Block.preorder, List.flatMap_singleton, Block.noteIds]
          exact hown _
      | table columns =>
          rw [toBlock, Block.preorder, List.flatMap_singleton, Block.noteIds]
          exact rows_callIdsAll hcalls children
      | fenced _ _ _ | indented | html _ | rule =>
          rw [toBlock]
          rfl
      | note name =>
          have hhas : dialect.notes = true := hkind
          rw [hnotes] at hhas
          cases hhas
      | definitions =>
          rw [toBlock, Block.preorder, List.flatMap_cons]
          exact noteIds_toDefinitions hcalls hnotes children hchildren
      | document | quote | list _ _ | item _ _ | definition _ _ | details | row | cell =>
          simp only [toBlock, Block.preorder, List.flatMap_cons]
          exact noteIds_toBlocks hcalls hnotes children hchildren

theorem noteIds_toBlocks (hcalls : context.notes = false) (hnotes : dialect.notes = false) :
    forall (nodes : List Node), (forall node, node ∈ nodes -> node.IsOf dialect) ->
      noteIds (toBlocks context nodes) = []
  | [], _ => rfl
  | child :: rest, h => by
      rcases List.forall_mem_cons.mp h with ⟨hchild, hrest⟩
      rw [toBlocks, noteIds, Block.preorderAll, List.flatMap_append,
        noteIds_toBlock hcalls hnotes child hchild]
      exact noteIds_toBlocks hcalls hnotes rest hrest

theorem noteIds_toDefinitions (hcalls : context.notes = false) (hnotes : dialect.notes = false) :
    forall (nodes : List Node), (forall node, node ∈ nodes -> node.IsOf dialect) ->
      noteIds (toDefinitions context nodes) = []
  | [], _ => rfl
  | node kind s blank halves :: rest, h => by
      rcases List.forall_mem_cons.mp h with ⟨hfirst, hrest⟩
      cases kind with
      | definition width tight =>
          cases hfirst with
          | node _ hhalves =>
              rw [toDefinitions, noteIds, Block.preorderAll_append, List.flatMap_append]
              rw [← noteIds, ← noteIds, noteIds_toHalves hcalls hnotes tight halves hhalves]
              exact noteIds_toDefinitions hcalls hnotes rest hrest
      | _ =>
          rw [toDefinitions]
          · exact noteIds_toDefinitions hcalls hnotes rest hrest
          · simp

theorem noteIds_toHalves (hcalls : context.notes = false) (hnotes : dialect.notes = false)
    (tight : Bool) :
    forall (nodes : List Node), (forall node, node ∈ nodes -> node.IsOf dialect) ->
      noteIds (toHalves context tight nodes) = []
  | [], _ => rfl
  | node kind s blank children :: rest, h => by
      rcases List.forall_mem_cons.mp h with ⟨hfirst, hrest⟩
      have hothers := noteIds_toHalves hcalls hnotes tight rest hrest
      cases kind with
      | details =>
          cases hfirst with
          | node _ hchildren =>
              have hinside := noteIds_toBlocks hcalls hnotes children hchildren
              rw [toHalves, noteIds, Block.preorderAll, List.flatMap_append, Block.preorder,
                List.flatMap_cons, ← noteIds, ← noteIds, hinside, hothers]
              rfl
      | _ =>
          rw [toHalves, noteIds, Block.preorderAll, List.flatMap_append,
            noteIds_toBlock hcalls hnotes _ hfirst]
          · exact hothers
          · simp

end

end Notes

end Node

theorem noteIds_read {dialect : Dialect} (hnotes : dialect.notes = false) (source : Text) :
    noteIds (read dialect source) = [] := by
  unfold read
  dsimp only
  rw [if_neg (by simp [hnotes])]
  exact Node.noteIds_toBlocks hnotes hnotes _ (isOf_readBlocks dialect source)

end Markdown
end Folio
