import Folio.Toml.Lexeme

/-!
# Items of a TOML document

A document is a table whose entries are values, tables and rows of tables.  Where
an item stands in the text is kept beside it, for messages.
-/

namespace Folio
namespace Toml

/-- How a table came to be.  An implied table was only mentioned in the path to
another one; a dotted table was made by the parts of a key. -/
structure Origin where
  inline : Bool
  implied : Bool
  dotted : Bool
  deriving DecidableEq

namespace Origin

def header : Origin where
  inline := false
  implied := false
  dotted := false

def path (dotted : Bool) : Origin where
  inline := false
  implied := true
  dotted := dotted

def braces : Origin where
  inline := true
  implied := false
  dotted := false

def bracePath : Origin where
  inline := true
  implied := true
  dotted := true

end Origin

inductive Item where
  | scalar (content : Scalar) (span : Span)
  | date (span : Span)
  | array (elements : List Item) (span : Span)
  | table (origin : Origin) (span : Option Span) (entries : List (Key × Item))
  | tables (elements : List Item)
  deriving Inhabited

namespace Item

def span? : Item -> Option Span
  | scalar _ span => some span
  | date span => some span
  | array _ span => some span
  | table _ span _ => span
  | tables elements =>
      match elements.head?, elements.getLast? with
      | some (table _ (some first) _), some (table _ (some last) _) =>
          some { start := first.start, stop := last.stop }
      | _, _ => none

def kind : Item -> Text
  | scalar (Scalar.text _) _ => "string"
  | scalar (Scalar.int _) _ => "integer"
  | scalar (Scalar.float _) _ => "float"
  | scalar _ _ => "boolean"
  | date _ => "datetime"
  | array _ _ => "array"
  | table origin _ _ => if origin.inline then "inline table" else "table"
  | tables _ => "array of tables"

/-!
# Values

A date is a table under a label, since a date is read as a record of its own.
-/

mutual

def value : Item -> Value
  | scalar content _ => Value.scalar content
  | date _ => Value.labelled "date" (Value.table [])
  | array elements _ => Value.list (values elements)
  | table _ _ entries => Value.table (entryValues entries)
  | tables elements => Value.list (values elements)

def values : List Item -> List Value
  | [] => []
  | item :: rest => value item :: values rest

def entryValues : List (Key × Item) -> List (Value × Value)
  | [] => []
  | (key, item) :: rest => (Value.text key.name, value item) :: entryValues rest

end

/-!
# Places of faults
-/

def locate (item : Item) (outer : Option Span) : List Step -> Option Span
  | [] => item.span?.or outer
  | Step.index n :: path =>
      let own := item.span?.or outer
      match item with
      | array elements _ =>
          match elements[n]? with
          | some element => locate element own path
          | none => own
      | tables elements =>
          match elements[n]? with
          | some element => locate element own path
          | none => own
      | _ => own
  | Step.field name :: path =>
      let own := item.span?.or outer
      match item with
      | table _ _ entries =>
          match entries.find? fun entry => entry.1.name == name with
          | some (key, element) => locate element (some key.span) path
          | none => own
      | _ => own
  | Step.key n :: _ =>
      match item with
      | table _ _ entries =>
          match entries[n]? with
          | some (key, _) => some key.span
          | none => item.span?.or outer
      | _ => item.span?.or outer
  | Step.holder :: _ => item.span?.or outer

end Item

/-!
# Adding to tables
-/

inductive Clash where
  | taken (key : Text) (place : Option (List Key))
  | notTable (path : List Key) (kind : Text)

namespace Clash

def written (key : Key) : Text :=
  if key.name ≠ [] ∧ key.name.all isBareKeyChar then key.name else Text.quoted key.name

def joined (path : List Key) : Text :=
  Text.join ['.'] (path.map written)

def message : Clash -> Text
  | taken key none => "duplicate key `" ++ key ++ "`"
  | taken key (some []) => "duplicate key `" ++ key ++ "` in document root"
  | taken key (some path) => "duplicate key `" ++ key ++ "` in table `" ++ joined path ++ "`"
  | notTable path kind =>
      "dotted key `" ++ joined path ++ "` attempted to extend non-table type (" ++ kind ++ ")"

end Clash

abbrev Entries := List (Key × Item)

namespace Entries

def lookup (entries : Entries) (name : Text) : Option Item :=
  (entries.find? fun entry => entry.1.name == name).map fun entry => entry.2

def erase (entries : Entries) (name : Text) : Entries :=
  entries.filter fun entry => entry.1.name != name

def put (entries : Entries) (key : Key) (item : Item) : Entries :=
  if entries.any fun entry => entry.1.name == key.name then
    entries.map fun entry => if entry.1.name == key.name then (entry.1, item) else entry
  else
    entries ++ [(key, item)]

/-- What a change does to a table: it gives new entries, or it clashes.  The
change is told how the table came to be. -/
abbrev Change := Origin -> Entries -> Except Clash Entries

def changeLast (change : Origin -> Entries -> Except Clash Entries) :
    List Item -> Except Clash (List Item)
  | [] => Except.ok []
  | [Item.table origin span entries] =>
      (change origin entries).map fun entries => [Item.table origin span entries]
  | item :: rest => (changeLast change rest).map fun rest => item :: rest

/-- Follows a path of keys from a table and changes the table at its end.  Tables
on the way that are not there are made.  `walked` is the path up to here, and
`dotted` says whether the path is part of a key; such a path does not enter tables
that have a header or braces of their own. -/
def descend (made : Origin) (dotted : Bool) (change : Change) (walked : List Key) :
    List Key -> Change
  | [], origin, entries => change origin entries
  | key :: path, _, entries =>
      let further : Change := descend made dotted change (walked ++ [key]) path
      match lookup entries key.name with
      | none =>
          (further made []).map fun inner => entries.put key (Item.table made none inner)
      | some (Item.table origin span inner) =>
          if origin.inline && !made.inline then
            Except.error (Clash.notTable (walked ++ [key]) "inline table")
          else if dotted && !origin.implied then
            Except.error (Clash.taken key.name none)
          else
            (further origin inner).map fun inner => entries.put key (Item.table origin span inner)
      | some (Item.tables elements) =>
          (changeLast further elements).map fun elements => entries.put key (Item.tables elements)
      | some item => Except.error (Clash.notTable (walked ++ [key]) item.kind)

def reach (entries : Entries) (key : Key) : List Key -> Option Item
  | [] => entries.lookup key.name
  | first :: path =>
      match entries.lookup first.name with
      | some (Item.table _ _ inner) => reach inner key path
      | some (Item.tables elements) =>
          match elements.getLast? with
          | some (Item.table _ _ inner) => reach inner key path
          | _ => none
      | _ => none

def insert (made : Origin) (place : Option (List Key)) (path : List Key) (key : Key) (item : Item) :
    Change :=
  descend made true
    (fun origin entries =>
      if origin.dotted = path.isEmpty then
        Except.error (Clash.taken key.name none)
      else if (lookup entries key.name).isSome then
        Except.error (Clash.taken key.name place)
      else
        Except.ok (entries.put key item))
    [] path

end Entries
end Toml
end Folio
