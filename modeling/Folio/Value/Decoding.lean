import Folio.Value

/-!
# Decoding values

A decoder takes a value to what it stands for or to a fault.  The decoders here
are the ones that records are put together from.
-/

namespace Folio

abbrev Decoded (α : Type) := Except Fault α

namespace Value

def found : Value -> Found
  | scalar content => Found.scalar content
  | plain _ _ declared => Found.scalar declared
  | list _ => Found.list
  | table _ => Found.table
  | labelled _ v => found v
  | broken => Found.table

def mismatch (expected : Text) (v : Value) : Decoded α :=
  match v.content with
  | broken => Except.error (Fault.here Cause.endOfDocument)
  | v => Except.error (Fault.here (Cause.wrongType v.found expected))

def within (step : Step) (result : Decoded α) : Decoded α :=
  result.mapError (Fault.within step)

/-!
# Scalars
-/

def toText (expected : Text) (v : Value) : Decoded Text :=
  match v.content with
  | scalar (Scalar.text s) => Except.ok s
  | plain written _ _ => Except.ok written
  | _ => mismatch expected v

def string (v : Value) : Decoded Text :=
  v.toText "a string"

def path (v : Value) : Decoded Text :=
  v.toText "path string"

def boolean (v : Value) : Decoded Bool :=
  match v.content with
  | scalar (Scalar.bool b) => Except.ok b
  | plain _ (some (Scalar.bool b)) _ => Except.ok b
  | _ => mismatch "a boolean" v

def expectedByte : Text :=
  "u8"

def intToByte (n : Int) : Decoded Nat :=
  if 0 ≤ n ∧ n < 256 then
    Except.ok n.toNat
  else
    Except.error (Fault.here (Cause.wrongValue (Found.scalar (Scalar.int n)) expectedByte))

/-- A number from 0 to 255.  Where the wanted type decides, a number with a minus
sign is not of a type without one. -/
def byte (v : Value) : Decoded Nat :=
  match v.content with
  | scalar (Scalar.int n) => intToByte n
  | plain written (some (Scalar.int n)) _ =>
      if written.head? = some '-' then mismatch expectedByte v else intToByte n
  | _ => mismatch expectedByte v

/-!
# Lists
-/

def elementsFrom (decode : Value -> Decoded α) (n : Nat) : List Value -> Decoded (List α)
  | [] => Except.ok []
  | v :: rest =>
      match within (Step.index n) (decode v) with
      | Except.error fault => Except.error fault
      | Except.ok a =>
          match elementsFrom decode (n + 1) rest with
          | Except.error fault => Except.error fault
          | Except.ok others => Except.ok (a :: others)

def elements (decode : Value -> Decoded α) (v : Value) : Decoded (List α) :=
  match v.content with
  | list values => elementsFrom decode 0 values
  | plain [] (some _) _ => Except.ok []
  | _ => mismatch "a sequence" v

/-!
# Records

The fields of a record are decoded one after the other into a record that has
some of its fields already.  `RecordField` says how one field is filled in.
-/

structure RecordField (α : Type) where
  name : Text
  isSet : α -> Bool
  decode : α -> Value -> Decoded α

/-- Fills in the fields that a table has, from its entry number `n` on.  Unknown
keys are passed over. -/
def fillTable (fields : List (RecordField α)) (n : Nat) (a : α) : List (Value × Value) -> Decoded α
  | [] => Except.ok a
  | (key, v) :: rest =>
      match within (Step.key n) (key.toText "field identifier") with
      | Except.error fault => Except.error fault
      | Except.ok name =>
          match fields.find? fun field => field.name == name with
          | none =>
              if v.isWhole then
                fillTable fields (n + 1) a rest
              else
                Except.error (Fault.here Cause.endOfDocument)
          | some field =>
              if field.isSet a then
                Except.error (Fault.here (Cause.duplicateField name))
              else
                match within (Step.field name) (field.decode a v) with
                | Except.error fault => Except.error fault
                | Except.ok a => fillTable fields (n + 1) a rest

def fillList (n : Nat) : List (RecordField α) -> α -> List Value -> Decoded α
  | [], a, _ => Except.ok a
  | _ :: _, a, [] => Except.ok a
  | field :: fields, a, v :: rest =>
      match within (Step.index n) (field.decode a v) with
      | Except.error fault => Except.error fault
      | Except.ok a => fillList (n + 1) fields a rest

def fill (format : Format) (expected : Text) (fields : List (RecordField α)) (a : α) (v : Value) :
    Decoded α :=
  match v.content with
  | table entries => fillTable fields 0 a entries
  | list values =>
      if format = Format.yaml then
        mismatch expected v
      else
        match fillList 0 fields a values with
        | Except.error fault => Except.error fault
        | Except.ok a =>
            if format = Format.json ∧ fields.length < values.length then
              Except.error
                (Fault.here (Cause.wrongLength values.length "fewer elements in array"))
            else
              Except.ok a
  | plain [] (some _) _ => Except.ok a
  | _ => mismatch expected v

/-!
# Variants
-/

def kindName : Value -> Text
  | scalar (Scalar.text _) => "string"
  | scalar (Scalar.int _) => "integer"
  | scalar (Scalar.float _) => "float"
  | scalar (Scalar.bool _) => "boolean"
  | list _ => "array"
  | table _ => "inline table"
  | _ => "datetime"

def emptyContent (format : Format) (v : Value) : Decoded Unit :=
  match format, v.content with
  | Format.json, scalar Scalar.null => Except.ok ()
  | Format.yaml, plain _ (some Scalar.null) _ => Except.ok ()
  | Format.toml, list [] => Except.ok ()
  | Format.toml, list _ =>
      Except.error (Fault.here (Cause.variantContent "expected empty array"))
  | Format.toml, table [] => Except.ok ()
  | Format.toml, table _ =>
      Except.error (Fault.here (Cause.variantContent "expected empty table"))
  | Format.toml, v =>
      Except.error (Fault.here (Cause.variantContent ("expected table, found " ++ v.kindName)))
  | _, v => mismatch "unit" v

def variantNamed (decode : Text -> Option α) (allowed : List Text) (name : Text) : Decoded α :=
  match decode name with
  | some a => Except.ok a
  | none => Except.error (Fault.here (Cause.unknownVariant name allowed))

def variant (format : Format) (decode : Text -> Option α) (allowed : List Text) (v : Value) :
    Decoded α :=
  match format, v with
  | Format.yaml, labelled ('!' :: tag) content =>
      match within Step.holder (variantNamed decode allowed tag) with
      | Except.error fault => Except.error fault
      | Except.ok a => (emptyContent format content).map fun _ => a
  | Format.yaml, v =>
      match v.content with
      | scalar (Scalar.text s) => variantNamed decode allowed s
      | plain written _ _ => variantNamed decode allowed written
      | _ => mismatch "a YAML tag starting with '!'" v
  | _, scalar (Scalar.text s) => variantNamed decode allowed s
  | _, table [(key, content)] =>
      match key.toText "variant identifier" with
      | Except.error fault => Except.error fault
      | Except.ok name =>
          match within (Step.key 0) (variantNamed decode allowed name) with
          | Except.error fault => Except.error fault
          | Except.ok a =>
              (within (Step.field name) (emptyContent format content)).map fun _ => a
  | Format.json, table entries =>
      Except.error
        (Fault.here (Cause.wrongValue (Value.table entries).found "map with a single key"))
  | Format.toml, table entries => Except.error (Fault.here (Cause.variantCount entries.isEmpty))
  | Format.json, v => mismatch "string or map" v
  | Format.toml, _ => Except.error (Fault.here Cause.noVariant)

end Value

end Folio
