import Mathlib.Data.List.DropRight
import Folio.Markdown.Page
import Folio.Markdown.Reader
import Folio.Proofs.Markdown.Notes

/-!
# Labels of code

The label of code is the first word of its info string.  White space around an info
string is not kept, so that code which was read has no info string or one that
begins with a word.
-/

namespace Folio

/-!
# Ends of texts
-/

namespace Text

theorem not_isAsciiSpace_of_isAsciiPunct {c : Char} (h : isAsciiPunct c = true) :
    isAsciiSpace c = false := by
  have hspace : c ≠ ' ' := by
    rintro rfl
    cases h
  have hcontrol : ¬ c ≤ '\r' := by
    intro hle
    simp only [isAsciiPunct, Bool.or_eq_true, Bool.and_eq_true, decide_eq_true_eq] at h
    simp only [Char.le_def, UInt32.le_iff_toNat_le, Char.reduceVal, UInt32.reduceToNat] at h hle
    omega
  simp [isAsciiSpace, hspace, hcontrol]

theorem not_isAsciiSpace_of_trimAscii {s rest : Text} {c : Char}
    (h : trimAscii s = c :: rest) : isAsciiSpace c = false := by
  have hprefix : trimAscii s <+: s.dropWhile isAsciiSpace :=
    List.rdropWhile_prefix isAsciiSpace _
  rw [h] at hprefix
  rcases hprefix with ⟨more, hmore⟩
  have hhead := List.head?_dropWhile_not isAsciiSpace s
  rw [← hmore] at hhead
  simpa using hhead

theorem not_isAsciiSpace_of_unescape {s rest : Text} {c d : Char}
    (hd : isAsciiSpace d = false) (h : unescape (d :: s) = c :: rest) :
    isAsciiSpace c = false := by
  unfold unescape at h
  split at h
  · split at h
    · rename_i hpunct
      injection h with hc _
      rw [← hc]
      exact not_isAsciiSpace_of_isAsciiPunct hpunct
    · injection h with hc _
      rw [← hc]
      rfl
  · rename_i heq
    injection heq with heq _
    injection h with hc _
    rw [← hc, ← heq]
    exact hd
  · cases h

end Text

namespace Markdown

/-!
# Info strings
-/

theorem not_isAsciiSpace_of_infoOf {line rest : Text} {c : Char}
    (h : infoOf line = c :: rest) : Text.isAsciiSpace c = false := by
  unfold infoOf at h
  cases htrim : Text.trimAscii (Text.resolveReferences line) with
  | nil =>
      rw [htrim] at h
      cases h
  | cons d s =>
      rw [htrim] at h
      exact Text.not_isAsciiSpace_of_unescape (Text.not_isAsciiSpace_of_trimAscii htrim) h

theorem languageOf_infoOf_ne (line : Text) : languageOf (infoOf line) ≠ some [] := by
  cases hinfo : infoOf line with
  | nil =>
      decide
  | cons c rest =>
      have hc := not_isAsciiSpace_of_infoOf hinfo
      simp [languageOf, hc]

namespace Node

section Labels

variable {context : InlineContext} {info literal : Text}

mutual

theorem languageOf_of_mem_toBlock :
    forall (node : Node), Block.code info literal ∈ (toBlock context node).preorder ->
      languageOf info ≠ some []
  | node kind s _ children, h => by
      cases kind with
      | fenced mark length offset =>
          simp only [toBlock, Block.preorder, List.mem_singleton, Block.code.injEq] at h
          rw [h.1]
          exact languageOf_infoOf_ne _
      | indented =>
          simp only [toBlock, Block.preorder, List.mem_singleton, Block.code.injEq] at h
          rw [h.1]
          decide
      | paragraph _ | heading _ _ | html _ | rule | table _ | term =>
          simp [toBlock, Block.preorder] at h
      | definitions =>
          simp only [toBlock, Block.preorder, List.mem_cons, reduceCtorEq, false_or] at h
          exact languageOf_of_mem_toDefinitions children h
      | document | quote | list _ _ | item _ _ | definition _ _ | details | note _ | row | cell =>
          simp only [toBlock, Block.preorder, List.mem_cons, reduceCtorEq, false_or] at h
          exact languageOf_of_mem_toBlocks children h

theorem languageOf_of_mem_toBlocks :
    forall (nodes : List Node),
      Block.code info literal ∈ Block.preorderAll (toBlocks context nodes) ->
        languageOf info ≠ some []
  | [], h => by
      cases h
  | child :: rest, h => by
      rw [toBlocks, Block.preorderAll, List.mem_append] at h
      rcases h with hchild | hrest
      · exact languageOf_of_mem_toBlock child hchild
      · exact languageOf_of_mem_toBlocks rest hrest

theorem languageOf_of_mem_toDefinitions :
    forall (nodes : List Node),
      Block.code info literal ∈ Block.preorderAll (toDefinitions context nodes) ->
        languageOf info ≠ some []
  | [], h => by
      cases h
  | node kind s blank halves :: rest, h => by
      cases kind with
      | definition width tight =>
          rw [toDefinitions, Block.preorderAll_append, List.mem_append] at h
          rcases h with hhalves | hrest
          · exact languageOf_of_mem_toHalves tight halves hhalves
          · exact languageOf_of_mem_toDefinitions rest hrest
      | _ =>
          rw [toDefinitions] at h
          · exact languageOf_of_mem_toDefinitions rest h
          · simp

theorem languageOf_of_mem_toHalves (tight : Bool) :
    forall (nodes : List Node),
      Block.code info literal ∈ Block.preorderAll (toHalves context tight nodes) ->
        languageOf info ≠ some []
  | [], h => by
      cases h
  | node kind s blank children :: rest, h => by
      cases kind with
      | details =>
          simp only [toHalves, Block.preorderAll, Block.preorder, List.mem_append, List.mem_cons,
            reduceCtorEq, false_or] at h
          rcases h with hchildren | hrest
          · exact languageOf_of_mem_toBlocks children hchildren
          · exact languageOf_of_mem_toHalves tight rest hrest
      | _ =>
          rw [toHalves, Block.preorderAll, List.mem_append] at h
          · rcases h with hhalf | hrest
            · exact languageOf_of_mem_toBlock _ hhalf
            · exact languageOf_of_mem_toHalves tight rest hrest
          · simp

end

end Labels

end Node

theorem languageOf_of_mem_read {dialect : Dialect} {source info literal : Text}
    (h : Block.code info literal ∈ Block.preorderAll (read dialect source)) :
    languageOf info ≠ some [] := by
  unfold read at h
  dsimp only at h
  split at h
  · exact Node.languageOf_of_mem_toBlocks _ (code_mem_of_resolveNotes h)
  · exact Node.languageOf_of_mem_toBlocks _ h

end Markdown
end Folio
