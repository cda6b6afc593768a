import Folio.Text.Quoted

/-!
# Values of data formats

Settings are written in several data formats.  A reader of a format turns a
document into a value, and the settings are decoded from the value.  A scalar
that is written without quotes keeps its text beside its meaning, since some
formats let the wanted type decide.
-/

namespace Folio

inductive Scalar where
  | null
  | bool (b : Bool)
  | int (n : Int)
  | wideInt (n : Int)
  | float (shown : Text)
  | text (s : Text)
  | misfit (written expected : Text)
  deriving DecidableEq

def Scalar.bound (bits : Nat) : Int :=
  Int.ofNat (Nat.pow 2 bits)

/-- A value.  A plain value is a text as it is written; it has a meaning where the
wanted type decides, and it declares to be what its tag says, or else what it
means.  An entry of a table has a key, which is a text unless it is a list or a
table itself; `broken` stands where the document could not be read on, and
`labelled` puts a tag on a value. -/
inductive Value where
  | scalar (content : Scalar)
  | plain (written : Text) (meaning : Option Scalar) (declared : Scalar)
  | list (elements : List Value)
  | table (entries : List (Value × Value))
  | labelled (tag : Text) (content : Value)
  | broken
  deriving Inhabited

namespace Value

def text (s : Text) : Value :=
  scalar (Scalar.text s)

def content : Value -> Value
  | labelled _ v => v
  | v => v

mutual

def isWhole : Value -> Bool
  | broken => false
  | list elements => areWhole elements
  | table entries => entriesWhole entries
  | labelled _ v => isWhole v
  | _ => true

def areWhole : List Value -> Bool
  | [] => true
  | v :: rest => isWhole v && areWhole rest

def entriesWhole : List (Value × Value) -> Bool
  | [] => true
  | (key, v) :: rest => isWhole key && isWhole v && entriesWhole rest

def depth : Value -> Nat
  | list elements => depthOfAll elements + 1
  | table entries => depthOfEntries entries + 1
  | labelled _ v => depth v
  | _ => 0

def depthOfAll : List Value -> Nat
  | [] => 0
  | v :: rest => max (depth v) (depthOfAll rest)

def depthOfEntries : List (Value × Value) -> Nat
  | [] => 0
  | (key, v) :: rest => max (max (depth key) (depth v)) (depthOfEntries rest)

end

end Value

/-!
# Faults

A value that cannot be decoded has a fault: what is wrong, and the way from the
root of the document to the part at fault.
-/

inductive Format where
  | json
  | toml
  | yaml
  deriving DecidableEq

inductive Found where
  | scalar (content : Scalar)
  | list
  | table
  deriving DecidableEq

inductive Cause where
  | wrongType (found : Found) (expected : Text)
  | wrongValue (found : Found) (expected : Text)
  | wrongLength (length : Nat) (expected : Text)
  | missingField (name : Text)
  | duplicateField (name : Text)
  | unknownVariant (name : Text) (allowed : List Text)
  | noVariant
  | variantCount (isEmpty : Bool)
  | variantContent (reason : Text)
  | endOfDocument
  deriving DecidableEq

/-- A step down into a value: to the value of a field, to an element, or to the
key of an entry.  A last step to the holder stays at the value that holds the part
at fault. -/
inductive Step where
  | field (name : Text)
  | index (n : Nat)
  | key (n : Nat)
  | holder
  deriving DecidableEq

structure Fault where
  path : List Step
  cause : Cause
  deriving DecidableEq

namespace Fault

def here (cause : Cause) : Fault where
  path := []
  cause := cause

def within (step : Step) (fault : Fault) : Fault :=
  { fault with path := step :: fault.path }

end Fault

/-!
# Wording
-/

namespace Found

def words (format : Format) : Found -> Text
  | scalar Scalar.null => if format = Format.yaml then "unit value" else "null"
  | scalar (Scalar.bool b) => "boolean `" ++ (if b then "true" else "false") ++ "`"
  | scalar (Scalar.int n) => "integer `" ++ Text.ofInt n ++ "`"
  | scalar (Scalar.wideInt n) =>
      "integer `" ++ Text.ofInt n ++ "` as " ++ if n < 0 then "i128" else "u128"
  | scalar (Scalar.float shown) => "floating point `" ++ shown ++ "`"
  | scalar (Scalar.text s) => "string " ++ Text.quoted s
  | scalar (Scalar.misfit written _) => "string " ++ Text.quoted written
  | list => "sequence"
  | table => "map"

end Found

namespace Cause

def backquoted (s : Text) : Text :=
  '`' :: s ++ ['`']

def message (format : Format) : Cause -> Text
  | wrongType (Found.scalar (Scalar.misfit written expected)) _ =>
      "invalid value: string " ++ Text.quoted written ++ ", expected " ++ expected
  | wrongType found expected => "invalid type: " ++ found.words format ++ ", expected " ++ expected
  | wrongValue found expected =>
      "invalid value: " ++ found.words format ++ ", expected " ++ expected
  | wrongLength length expected =>
      "invalid length " ++ Text.ofNat length ++ ", expected " ++ expected
  | missingField name => "missing field " ++ backquoted name
  | duplicateField name => "duplicate field " ++ backquoted name
  | unknownVariant name allowed =>
      "unknown variant " ++ backquoted name ++ ", expected one of " ++
        Text.join ", " (allowed.map backquoted)
  | noVariant => "wanted string or table"
  | variantCount isEmpty =>
      if isEmpty then "wanted exactly 1 element, found 0 elements"
      else "wanted exactly 1 element, more than 1 element"
  | variantContent reason => reason
  | endOfDocument => []

end Cause

end Folio
