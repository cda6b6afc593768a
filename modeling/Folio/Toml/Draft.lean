import Folio.Toml.Item

/-!
# Documents in the making

A document is put together from key-value lines and headers.  The table of the
last header is open; it joins the other ones at the next header or at the end.
-/

namespace Folio
namespace Toml

/-- What has been read of a document: the closed tables, and the open one with
its path, its span and whether it is an element of a row of tables. -/
structure Draft where
  root : Entries
  entries : Entries
  path : List Key
  isRow : Bool
  span : Option Span

namespace Draft

def empty : Draft where
  root := []
  entries := []
  path := []
  isRow := false
  span := none

def insert (draft : Draft) (path : List Key) (key : Key) (item : Item) : Except Clash Draft :=
  let stop := (item.span?.map Span.stop).getD 0
  let span := draft.span.map fun span => { span with stop := stop }
  (Entries.insert (Origin.path true) (some draft.path) path key item Origin.header
    draft.entries).map fun entries => { draft with entries := entries, span := span }

def clash (path : List Key) (key : Key) : Except Clash α :=
  Except.error (Clash.taken key.name (some path))

def under (root : Entries) (path : List Key) (change : Entries -> Except Clash Entries) :
    Except Clash Entries :=
  Entries.descend (Origin.path false) false (fun _ entries => change entries) [] path
    Origin.header root

def appendRow (path : List Key) (key : Key) (elements : List Item) (entries : Entries) :
    Except Clash Entries :=
  match entries.lookup key.name with
  | none => Except.ok (entries.put key (Item.tables elements))
  | some (Item.tables others) => Except.ok (entries.put key (Item.tables (others ++ elements)))
  | some _ => clash path key

def closed (draft : Draft) : Except Clash Entries :=
  match draft.path.getLast? with
  | none => Except.ok draft.entries
  | some key =>
      let path := draft.path.dropLast
      let table := Item.table Origin.header draft.span draft.entries
      if draft.isRow then
        under draft.root path (appendRow path key [table])
      else
        under draft.root path fun entries =>
          if (entries.lookup key.name).isSome then
            clash path key
          else
            Except.ok (entries.put key table)

/-- Opens the table of a header.  A table that was only implied so far keeps its
entries. -/
def openTable (draft : Draft) (path : List Key) (key : Key) (span : Span) : Except Clash Draft := do
  let root <- draft.closed
  let known := Entries.reach root key path
  let root <- under root path fun entries =>
    match entries.lookup key.name with
    | none => Except.ok entries
    | some (Item.table origin _ _) =>
        if origin.implied && !origin.dotted then
          Except.ok (entries.erase key.name)
        else
          clash path key
    | some _ => clash path key
  let entries :=
    match known with
    | some (Item.table _ _ inner) => inner
    | _ => []
  return { root := root, entries := entries, path := path ++ [key], isRow := false, span := span }

def openRow (draft : Draft) (path : List Key) (key : Key) (span : Span) : Except Clash Draft := do
  let root <- draft.closed
  let root <- under root path (appendRow path key [])
  return { root := root, entries := [], path := path ++ [key], isRow := true, span := span }

def finish (draft : Draft) : Except Clash Item :=
  draft.closed.map fun entries => Item.table Origin.header none entries

end Draft
end Toml
end Folio
