import Folio.Markdown
import Folio.Markdown.Reference

/-!
# Notes

A note is defined once and called from any number of places.  Notes are numbered
by their first calls and move to the end of the document in that order; a note
that is never called is dropped, and a call of an unknown note is text.  Of two
notes with one name the later counts.
-/

namespace Folio
namespace Markdown

/-- A defined note: the form of its name that calls match, its name, its content,
the number that its first call gave it, and how often it was called. -/
structure NoteEntry where
  label : Text
  name : Text
  content : List Block
  number : Option Nat
  calls : Nat

structure NoteTable where
  entries : List NoteEntry
  numbered : Nat

namespace NoteTable

def insert (entry : NoteEntry) : List NoteEntry -> List NoteEntry
  | [] => [entry]
  | other :: rest =>
      if other.label = entry.label then entry :: rest else other :: insert entry rest

/-!
# Collecting notes

Notes that stand inside a note are left where they are.
-/

mutual

def collect : List NoteEntry -> Block -> List NoteEntry
  | entries, Block.note name _ content =>
      insert
        { label := normalLabel name
          name := displayLabel name
          content := content
          number := none
          calls := 0 }
        entries
  | entries, Block.quote content => collectAll entries content
  | entries, Block.list _ _ items => collectAll entries items
  | entries, Block.item content => collectAll entries content
  | entries, Block.definitions content => collectAll entries content
  | entries, Block.details _ content => collectAll entries content
  | entries, _ => entries

def collectAll : List NoteEntry -> List Block -> List NoteEntry
  | entries, [] => entries
  | entries, block :: rest => collectAll (collect entries block) rest

end

/-!
# Numbering calls
-/

def callEntry (label : Text) (next : Nat) : List NoteEntry ->
    Option (NoteEntry × List NoteEntry)
  | [] => none
  | entry :: rest =>
      if entry.label = label then
        let called :=
          { entry with number := some (entry.number.getD next), calls := entry.calls + 1 }
        some (called, called :: rest)
      else
        (callEntry label next rest).map fun (called, rest) => (called, entry :: rest)

/-- A call of a note, with the number of the note and the count of calls so far;
a call of an unknown note is its source text. -/
def call (table : NoteTable) (name : Text) : Inline × NoteTable :=
  match callEntry (normalLabel name) (table.numbered + 1) table.entries with
  | some (entry, entries) =>
      let number := entry.number.getD 0
      (Inline.noteCall entry.name number entry.calls,
        { entries := entries, numbered := max table.numbered number })
  | none => (Inline.text ("[^" ++ name ++ "]"), table)

mutual

def callInline (table : NoteTable) : Inline -> Inline × NoteTable
  | Inline.noteCall name _ _ => table.call name
  | Inline.emphasis content =>
      let (content, table) := callInlines table content
      (Inline.emphasis (Inline.merge content), table)
  | Inline.strong content =>
      let (content, table) := callInlines table content
      (Inline.strong (Inline.merge content), table)
  | Inline.link target title content =>
      let (content, table) := callInlines table content
      (Inline.link target title (Inline.merge content), table)
  | Inline.image target title content =>
      let (content, table) := callInlines table content
      (Inline.image target title (Inline.merge content), table)
  | inline => (inline, table)

def callInlines (table : NoteTable) : List Inline -> List Inline × NoteTable
  | [] => ([], table)
  | inline :: rest =>
      let (inline, table) := callInline table inline
      let (rest, table) := callInlines table rest
      (inline :: rest, table)

end

def callText (table : NoteTable) (content : List Inline) : List Inline × NoteTable :=
  let (content, table) := callInlines table content
  (Inline.merge content, table)

def callCells (table : NoteTable) : List (List Inline) -> List (List Inline) × NoteTable
  | [] => ([], table)
  | cell :: rest =>
      let (cell, table) := table.callText cell
      let (rest, table) := callCells table rest
      (cell :: rest, table)

def callRows (table : NoteTable) :
    List (List (List Inline)) -> List (List (List Inline)) × NoteTable
  | [] => ([], table)
  | row :: rest =>
      let (row, table) := callCells table row
      let (rest, table) := callRows table rest
      (row :: rest, table)

mutual

def callBlock (table : NoteTable) : Block -> Block × NoteTable
  | Block.paragraph content =>
      let (content, table) := table.callText content
      (Block.paragraph content, table)
  | Block.heading level content =>
      let (content, table) := table.callText content
      (Block.heading level content, table)
  | Block.term content =>
      let (content, table) := table.callText content
      (Block.term content, table)
  | Block.table columns rows =>
      let (rows, table) := callRows table rows
      (Block.table columns rows, table)
  | Block.quote content =>
      let (content, table) := callBlocks table content
      (Block.quote content, table)
  | Block.list style tight items =>
      let (items, table) := callBlocks table items
      (Block.list style tight items, table)
  | Block.item content =>
      let (content, table) := callBlocks table content
      (Block.item content, table)
  | Block.definitions content =>
      let (content, table) := callBlocks table content
      (Block.definitions content, table)
  | Block.details tight content =>
      let (content, table) := callBlocks table content
      (Block.details tight content, table)
  | Block.note name calls content =>
      let (content, table) := callBlocks table content
      (Block.note name calls content, table)
  | block => (block, table)

def callBlocks (table : NoteTable) : List Block -> List Block × NoteTable
  | [] => ([], table)
  | block :: rest =>
      let (block, table) := callBlock table block
      let (rest, table) := callBlocks table rest
      (block :: rest, table)

end

/-!
# Moving notes to the end
-/

mutual

def dropNotes : Block -> Option Block
  | Block.note _ _ _ => none
  | Block.quote content => some (Block.quote (dropNotesAll content))
  | Block.list style tight items => some (Block.list style tight (dropNotesAll items))
  | Block.item content => some (Block.item (dropNotesAll content))
  | Block.definitions content => some (Block.definitions (dropNotesAll content))
  | Block.details tight content => some (Block.details tight (dropNotesAll content))
  | block => some block

def dropNotesAll : List Block -> List Block
  | [] => []
  | block :: rest =>
      match dropNotes block with
      | some block => block :: dropNotesAll rest
      | none => dropNotesAll rest

end

def called (table : NoteTable) : List Block :=
  let byNumber := (List.range table.numbered).filterMap fun n =>
    table.entries.find? fun entry => entry.number == some (n + 1)
  byNumber.map fun entry => Block.note entry.name entry.calls entry.content

end NoteTable

def resolveNotes (document : Document) : Document :=
  let table : NoteTable := { entries := NoteTable.collectAll [] document, numbered := 0 }
  let (blocks, table) := table.callBlocks document
  let contents := NoteTable.collectAll [] blocks
  let entries := table.entries.map fun entry =>
    match contents.find? fun other => other.label == entry.label with
    | some other => { entry with content := other.content }
    | none => entry
  NoteTable.dropNotesAll blocks ++ { table with entries := entries }.called

end Markdown
end Folio
