import Folio.Markdown.Notes
import Folio.Proofs.Markdown.RawMarkup

/-!
# Code in notes

Notes are numbered and moved to the end of a document.  All code of the document
that comes out was in the one that went in: what a note says comes from the
document, and no call of the note changes it.
-/

namespace Folio
namespace Markdown

section Code

variable {info literal : Text}

namespace NoteTable

mutual

theorem code_mem_of_callBlock :
    forall (block : Block) (table : NoteTable),
      Block.code info literal ∈ (table.callBlock block).1.preorder ->
        Block.code info literal ∈ block.preorder
  | Block.paragraph _, _, h
  | Block.heading _ _, _, h
  | Block.term _, _, h
  | Block.table _ _, _, h => by
      simp [callBlock, Block.preorder] at h
  | Block.code _ _, _, h
  | Block.html _, _, h
  | Block.rule, _, h => h
  | Block.quote content, table, h
  | Block.list _ _ content, table, h
  | Block.item content, table, h
  | Block.definitions content, table, h
  | Block.details _ content, table, h
  | Block.note _ _ content, table, h => by
      simp only [callBlock, Block.preorder, List.mem_cons, reduceCtorEq, false_or] at h ⊢
      exact code_mem_of_callBlocks content table h

theorem code_mem_of_callBlocks :
    forall (blocks : List Block) (table : NoteTable),
      Block.code info literal ∈ Block.preorderAll (table.callBlocks blocks).1 ->
        Block.code info literal ∈ Block.preorderAll blocks
  | [], _, h => h
  | block :: rest, table, h => by
      simp only [callBlocks, Block.preorderAll, List.mem_append] at h ⊢
      rcases h with hfirst | hrest
      · exact Or.inl (code_mem_of_callBlock block table hfirst)
      · exact Or.inr (code_mem_of_callBlocks rest _ hrest)

end

mutual

theorem code_mem_of_dropNotes :
    forall (block kept : Block), dropNotes block = some kept ->
      Block.code info literal ∈ kept.preorder -> Block.code info literal ∈ block.preorder
  | Block.note _ _ _, _, hkept, _ => by
      cases hkept
  | Block.paragraph _, _, hkept, h
  | Block.heading _ _, _, hkept, h
  | Block.code _ _, _, hkept, h
  | Block.html _, _, hkept, h
  | Block.rule, _, hkept, h
  | Block.table _ _, _, hkept, h
  | Block.term _, _, hkept, h => by
      injection hkept with hkept
      rwa [← hkept] at h
  | Block.quote content, _, hkept, h
  | Block.list _ _ content, _, hkept, h
  | Block.item content, _, hkept, h
  | Block.definitions content, _, hkept, h
  | Block.details _ content, _, hkept, h => by
      injection hkept with hkept
      subst hkept
      simp only [Block.preorder, List.mem_cons, reduceCtorEq, false_or] at h ⊢
      exact code_mem_of_dropNotesAll content h

theorem code_mem_of_dropNotesAll :
    forall (blocks : List Block),
      Block.code info literal ∈ Block.preorderAll (dropNotesAll blocks) ->
        Block.code info literal ∈ Block.preorderAll blocks
  | [], h => h
  | block :: rest, h => by
      rw [dropNotesAll] at h
      rw [Block.preorderAll, List.mem_append]
      cases hkept : dropNotes block with
      | none =>
          rw [hkept] at h
          exact Or.inr (code_mem_of_dropNotesAll rest h)
      | some kept =>
          rw [hkept] at h
          rcases List.mem_append.mp h with hfirst | hrest
          · exact Or.inl (code_mem_of_dropNotes block kept hkept hfirst)
          · exact Or.inr (code_mem_of_dropNotesAll rest hrest)

end

/-!
# Contents of notes

What a note says comes from the document, and no call of the note changes it.
-/

def IsFrom (blocks content : List Block) : Prop :=
  forall info literal, Block.code info literal ∈ Block.preorderAll content ->
    Block.code info literal ∈ blocks

theorem IsFrom.mono {blocks others content : List Block} (h : IsFrom blocks content)
    (hsubset : blocks ⊆ others) : IsFrom others content :=
  fun info literal hcode => hsubset (h info literal hcode)

theorem mem_of_mem_insert {entry other : NoteEntry} {entries : List NoteEntry}
    (h : other ∈ insert entry entries) : other = entry ∨ other ∈ entries := by
  induction entries with
  | nil =>
      exact Or.inl (List.mem_singleton.mp h)
  | cons first rest ih =>
      rw [insert] at h
      split at h
      · rcases List.mem_cons.mp h with heq | hrest
        · exact Or.inl heq
        · exact Or.inr (List.mem_cons_of_mem first hrest)
      · rcases List.mem_cons.mp h with heq | hrest
        · exact Or.inr (by rw [heq]; exact List.mem_cons_self)
        · rcases ih hrest with heq | hmem
          · exact Or.inl heq
          · exact Or.inr (List.mem_cons_of_mem first hmem)

mutual

theorem mem_collect :
    forall (block : Block) (entries : List NoteEntry) (entry : NoteEntry),
      entry ∈ collect entries block -> entry ∈ entries ∨ IsFrom block.preorder entry.content
  | Block.note _ _ content, entries, entry, h => by
      rcases mem_of_mem_insert h with heq | hmem
      · right
        rw [heq]
        exact fun info literal hcode => List.mem_cons_of_mem _ hcode
      · exact Or.inl hmem
  | Block.paragraph _, _, _, h
  | Block.heading _ _, _, _, h
  | Block.code _ _, _, _, h
  | Block.html _, _, _, h
  | Block.rule, _, _, h
  | Block.table _ _, _, _, h
  | Block.term _, _, _, h => Or.inl h
  | Block.quote content, entries, entry, h
  | Block.list _ _ content, entries, entry, h
  | Block.item content, entries, entry, h
  | Block.definitions content, entries, entry, h
  | Block.details _ content, entries, entry, h => by
      rcases mem_collectAll content entries entry h with hmem | hfrom
      · exact Or.inl hmem
      · exact Or.inr (hfrom.mono (List.subset_cons_self _ _))

theorem mem_collectAll :
    forall (blocks : List Block) (entries : List NoteEntry) (entry : NoteEntry),
      entry ∈ collectAll entries blocks ->
        entry ∈ entries ∨ IsFrom (Block.preorderAll blocks) entry.content
  | [], _, _, h => Or.inl h
  | block :: rest, entries, entry, h => by
      rcases mem_collectAll rest (collect entries block) entry h with hmem | hfrom
      · rcases mem_collect block entries entry hmem with hmem | hfrom
        · exact Or.inl hmem
        · exact Or.inr (hfrom.mono (List.subset_append_left _ _))
      · exact Or.inr (hfrom.mono (List.subset_append_right _ _))

end

theorem isFrom_of_mem_collected {document : List Block} {entry : NoteEntry}
    (h : entry ∈ collectAll [] document) : IsFrom (Block.preorderAll document) entry.content := by
  rcases mem_collectAll document [] entry h with hmem | hfrom
  · cases hmem
  · exact hfrom

def contents (table : NoteTable) : List (List Block) :=
  table.entries.map NoteEntry.content

theorem map_content_of_callEntry {label : Text} {next : Nat} {called : NoteEntry}
    {entries entries' : List NoteEntry} (h : callEntry label next entries = some (called, entries')) :
    entries'.map NoteEntry.content = entries.map NoteEntry.content := by
  induction entries generalizing called entries' with
  | nil =>
      cases h
  | cons entry rest ih =>
      rw [callEntry] at h
      split at h
      · injection h with hpair
        injection hpair with _ hentries
        rw [← hentries]
        rfl
      · rcases Option.map_eq_some_iff.mp h with ⟨found, hfound, hpair⟩
        injection hpair with _ hentries
        rw [← hentries, List.map_cons, List.map_cons, ih hfound]

theorem contents_call (table : NoteTable) (name : Text) :
    (table.call name).2.contents = table.contents := by
  unfold call
  split
  · rename_i hcalled
    exact map_content_of_callEntry hcalled
  · rfl

mutual

theorem contents_callInline :
    forall (inline : Inline) (table : NoteTable),
      (table.callInline inline).2.contents = table.contents
  | Inline.text _, _
  | Inline.code _, _
  | Inline.html _, _
  | Inline.softBreak, _
  | Inline.hardBreak, _ => rfl
  | Inline.noteCall name _ _, table => contents_call table name
  | Inline.emphasis content, table
  | Inline.strong content, table
  | Inline.link _ _ content, table
  | Inline.image _ _ content, table => contents_callInlines content table

theorem contents_callInlines :
    forall (inlines : List Inline) (table : NoteTable),
      (table.callInlines inlines).2.contents = table.contents
  | [], _ => rfl
  | inline :: rest, table =>
      (contents_callInlines rest _).trans (contents_callInline inline table)

end

theorem contents_callCells (row : List (List Inline)) (table : NoteTable) :
    (table.callCells row).2.contents = table.contents := by
  induction row generalizing table with
  | nil =>
      rfl
  | cons cell rest ih =>
      exact (ih _).trans (contents_callInlines cell table)

theorem contents_callRows (rows : List (List (List Inline))) (table : NoteTable) :
    (table.callRows rows).2.contents = table.contents := by
  induction rows generalizing table with
  | nil =>
      rfl
  | cons row rest ih =>
      exact (ih _).trans (contents_callCells row table)

mutual

theorem contents_callBlock :
    forall (block : Block) (table : NoteTable),
      (table.callBlock block).2.contents = table.contents
  | Block.code _ _, _
  | Block.html _, _
  | Block.rule, _ => rfl
  | Block.paragraph content, table
  | Block.heading _ content, table
  | Block.term content, table => contents_callInlines content table
  | Block.table _ rows, table => contents_callRows rows table
  | Block.quote content, table
  | Block.list _ _ content, table
  | Block.item content, table
  | Block.definitions content, table
  | Block.details _ content, table
  | Block.note _ _ content, table => contents_callBlocks content table

theorem contents_callBlocks :
    forall (blocks : List Block) (table : NoteTable),
      (table.callBlocks blocks).2.contents = table.contents
  | [], _ => rfl
  | block :: rest, table =>
      (contents_callBlocks rest _).trans (contents_callBlock block table)

end

theorem isFrom_called {table : NoteTable} {blocks : List Block}
    (h : forall entry, entry ∈ table.entries -> IsFrom blocks entry.content) :
    IsFrom blocks table.called := by
  intro info literal hcode
  rcases Block.mem_preorderAll_iff.mp hcode with ⟨outer, houter, hcode⟩
  rcases List.mem_map.mp houter with ⟨entry, hentry, rfl⟩
  rcases List.mem_filterMap.mp hentry with ⟨n, _, hfind⟩
  have hcontent : Block.code info literal ∈ Block.preorderAll entry.content := by
    simpa [Block.preorder] using hcode
  exact h entry (List.mem_of_find?_eq_some hfind) info literal hcontent

end NoteTable

theorem code_mem_of_resolveNotes {document : Document}
    (h : Block.code info literal ∈ Block.preorderAll (resolveNotes document)) :
    Block.code info literal ∈ Block.preorderAll document := by
  unfold resolveNotes at h
  dsimp only at h
  generalize hstart : ({ entries := NoteTable.collectAll [] document, numbered := 0 } : NoteTable) =
    start at h
  rw [Block.preorderAll_append, List.mem_append] at h
  rcases h with hkept | hnotes
  · exact NoteTable.code_mem_of_callBlocks document start
      (NoteTable.code_mem_of_dropNotesAll _ hkept)
  · refine NoteTable.isFrom_called ?_ info literal hnotes
    intro entry hentry
    rcases List.mem_map.mp hentry with ⟨numbered, hnumbered, rfl⟩
    split
    · rename_i other hother
      intro info literal hcode
      apply NoteTable.code_mem_of_callBlocks document start
      exact NoteTable.isFrom_of_mem_collected (List.mem_of_find?_eq_some hother) info literal hcode
    · -- The entry still has the content that it was collected with.
      have hcontent : numbered.content ∈ start.contents := by
        rw [← NoteTable.contents_callBlocks document start]
        exact List.mem_map_of_mem hnumbered
      rw [← hstart] at hcontent
      rcases List.mem_map.mp hcontent with ⟨collected, hcollected, heq⟩
      rw [← heq]
      exact NoteTable.isFrom_of_mem_collected hcollected

end Code

end Markdown
end Folio
