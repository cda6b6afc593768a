import Folio.Decimal.Shortest
import Folio.Value

/-!
# Meanings of plain scalars

A scalar without quotes may mean nothing, a truth value or a number; else it is a
text.  A tag may declare what a scalar is.
-/

namespace Folio
namespace Yaml

/-!
# Whole numbers
-/

def unsigned : Text -> Text
  | '+' :: s => s
  | '-' :: s => s
  | s => s

def isZeroLed (s : Text) : Bool :=
  match unsigned s with
  | '0' :: d :: more => (d :: more).all Char.isDigit
  | _ => false

def digitIn (base : Nat) (c : Char) : Bool :=
  Text.isHexDigit c && Text.hexValue c < base

def digits? (base : Nat) (s : Text) : Option Nat :=
  if s ≠ [] ∧ s.all (digitIn base) then
    some (s.foldl (fun n c => base * n + Text.hexValue c) 0)
  else
    none

def magnitude? (s : Text) : Option Nat :=
  match s with
  | '0' :: 'x' :: rest => digits? 16 rest
  | '0' :: 'o' :: rest => digits? 8 rest
  | '0' :: 'b' :: rest => digits? 2 rest
  | s => if isZeroLed s then none else digits? 10 s

def wholeNumber? : Text -> Option Int
  | '-' :: s => (magnitude? s).map fun n => -(n : Int)
  | '+' :: s => (magnitude? s).map fun n => (n : Int)
  | s => (magnitude? s).map fun n => (n : Int)

def sized? (n : Int) : Option Scalar :=
  if -Scalar.bound 63 ≤ n ∧ n < Scalar.bound 64 then
    some (Scalar.int n)
  else if -Scalar.bound 127 ≤ n ∧ n < Scalar.bound 128 then
    some (Scalar.wideInt n)
  else
    none

def int? (s : Text) : Option Scalar :=
  match wholeNumber? s with
  | some n => sized? n
  | none => none

/-!
# Other numbers
-/

def exponent? : Text -> Option Int
  | [] => some 0
  | c :: s =>
      if c = 'e' ∨ c = 'E' then
        match s with
        | '-' :: s => (digits? 10 s).map fun n => -(n : Int)
        | '+' :: s => (digits? 10 s).map fun n => (n : Int)
        | s => (digits? 10 s).map fun n => (n : Int)
      else
        none

def decimal? (s : Text) : Option Decimal :=
  let whole := s.takeWhile Char.isDigit
  let rest := s.dropWhile Char.isDigit
  let (places, rest) : Text × Text :=
    match rest with
    | '.' :: rest => (rest.takeWhile Char.isDigit, rest.dropWhile Char.isDigit)
    | rest => ([], rest)
  if whole = [] ∧ places = [] then
    none
  else
    (exponent? rest).map fun e => Decimal.ofParts whole places e

def finite? (negative : Bool) (s : Text) : Option Text :=
  match decimal? s with
  | some d => if (Binary.ofDecimal? d).isSome then some (d.shown negative) else none
  | none => none

def infinities : List Text :=
  [".inf", ".Inf", ".INF"]

def nans : List Text :=
  [".nan", ".NaN", ".NAN"]

def float? (s : Text) : Option Text :=
  if nans.contains s then
    some "NaN"
  else
    match s with
    | '-' :: rest => if infinities.contains rest then some "-inf" else finite? true rest
    | '+' :: rest => if infinities.contains rest then some "inf" else finite? false rest
    | rest => if infinities.contains rest then some "inf" else finite? false rest

/-!
# Meanings
-/

def isNull (s : Text) : Bool :=
  [("~" : Text), "null", "Null", "NULL"].contains s

def bool? (s : Text) : Option Bool :=
  if [("true" : Text), "True", "TRUE"].contains s then
    some true
  else if [("false" : Text), "False", "FALSE"].contains s then
    some false
  else
    none

def numberOrText (s : Text) : Scalar :=
  match int? s with
  | some content => content
  | none =>
      if isZeroLed s then
        Scalar.text s
      else
        match float? s with
        | some shown => Scalar.float shown
        | none => Scalar.text s

def meaning (s : Text) : Scalar :=
  if s = [] ∨ isNull s then
    Scalar.null
  else
    match bool? s with
    | some b => Scalar.bool b
    | none => numberOrText s

/-!
# Tags
-/

def coreTag (name : Text) : Text :=
  "tag:yaml.org,2002:" ++ name

def intTag : Text :=
  coreTag "int"

def taggedMeaning (tag s : Text) : Option Scalar :=
  if tag = coreTag "bool" then
    some <| match bool? s with
      | some b => Scalar.bool b
      | none => Scalar.misfit s "a boolean"
  else if tag = intTag then
    some ((int? s).getD (Scalar.misfit s "an integer"))
  else if tag = coreTag "float" then
    some <| match float? s with
      | some shown => Scalar.float shown
      | none => Scalar.misfit s "a float"
  else if tag = coreTag "null" then
    some (if isNull s then Scalar.null else Scalar.misfit s "null")
  else
    none

/-- What a scalar declares to be: by its tag, or, when it is plain, by its text. -/
def declaredMeaning (tag : Option Text) (isPlain : Bool) (s : Text) : Scalar :=
  match tag with
  | none => if isPlain then meaning s else Scalar.text s
  | some tag =>
      match taggedMeaning tag s with
      | some content => content
      | none => if isPlain && tag.head? = some '!' then meaning s else Scalar.text s

end Yaml
end Folio
