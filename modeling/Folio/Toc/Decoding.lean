import Folio.Toc
import Folio.Value.Decoding

/-!
# Decoding tables of contents

Entries and headings are decoded from values whose parts must all be there.
-/

namespace Folio
namespace Toc

open Value (RecordField)

/-!
# Headings
-/

def required (length : Nat) (expected : Text) : Option α -> Decoded α
  | some a => Except.ok a
  | none => Except.error (Fault.here (Cause.wrongLength length expected))

def tupleLength : Text :=
  "a tuple of size 3"

def Heading.decode (v : Value) : Decoded Heading := do
  match v with
  | Value.list values =>
      let level <- (<- required 0 tupleLength values[0]?).byte
      let id <- (<- required 1 tupleLength values[1]?).string
      let name <- (<- required 2 tupleLength values[2]?).string
      if values.length = 3 then
        return { level := level, id := id, name := name }
      else
        Except.error (Fault.here (Cause.wrongLength values.length "fewer elements in array"))
  | _ => v.mismatch tupleLength

/-!
# Entries
-/

structure PartialEntry where
  level : Option Nat
  id : Option Text
  name : Option Text
  children : Option (List Entry)

namespace PartialEntry

def empty : PartialEntry where
  level := none
  id := none
  name := none
  children := none

def fields (decode : Value -> Decoded Entry) : List (RecordField PartialEntry) :=
  [{ name := "level"
     isSet := fun entry => entry.level.isSome
     decode := fun entry v => v.byte.map fun n => { entry with level := some n } },
   { name := "id"
     isSet := fun entry => entry.id.isSome
     decode := fun entry v => v.string.map fun s => { entry with id := some s } },
   { name := "name"
     isSet := fun entry => entry.name.isSome
     decode := fun entry v => v.string.map fun s => { entry with name := some s } },
   { name := "children"
     isSet := fun entry => entry.children.isSome
     decode := fun entry v =>
       (v.elements decode).map fun entries => { entry with children := some entries } }]

def field (v : Value) (name : Text) : Option α -> Decoded α
  | some a => Except.ok a
  | none =>
      match v with
      | Value.list values =>
          Except.error (Fault.here
            (Cause.wrongLength values.length "struct HeadingEntry with 4 elements"))
      | _ => Except.error (Fault.here (Cause.missingField name))

def complete (v : Value) (entry : PartialEntry) : Decoded Entry := do
  let level <- field v "level" entry.level
  let id <- field v "id" entry.id
  let name <- field v "name" entry.name
  let children <- field v "children" entry.children
  return Entry.node { level := level, id := id, name := name } children

end PartialEntry

def Entry.decodeWithin : Nat -> Value -> Decoded Entry
  | 0, v => v.mismatch "struct HeadingEntry"
  | fuel + 1, v => do
      let entry <-
        v.fill Format.json "struct HeadingEntry" (PartialEntry.fields (decodeWithin fuel))
          PartialEntry.empty
      entry.complete v

def Entry.decode (v : Value) : Decoded Entry :=
  Entry.decodeWithin (v.depth + 1) v

end Toc
end Folio
