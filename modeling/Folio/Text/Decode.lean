import Folio.Text.Reference

/-!
# Reading character references

A reference is an ampersand, a name or a number, and a semicolon.  Two readers
differ in what they accept.  A document takes every name with all of its
characters and lets a number that is no character stand for the replacement
character.  Escaped code takes the first character of a name and leaves
references to controls and to numbers that are no characters as they are
written.
-/

namespace Folio
namespace Text

def referenceBody? (accept : Char -> Bool) (s : Text) : Option (Text × Text) :=
  let body := s.takeWhile accept
  match s.dropWhile accept with
  | ';' :: rest => if body = [] then none else some (body, rest)
  | _ => none

def isScalarValue (n : Nat) : Bool :=
  n < 0xD800 || (0xE000 ≤ n && n ≤ 0x10FFFF)

/-!
# References in documents
-/

def replacementChar : Char :=
  '\uFFFD'

/-- The character of a numeric reference; zero, surrogates and numbers past the
last code point give the replacement character. -/
def numberedChar (n : Nat) : Char :=
  if n ≠ 0 ∧ isScalarValue n then Char.ofNat n else replacementChar

def numbered? (isDigit : Char -> Bool) (value : Text -> Nat) (limit : Nat) (s : Text) :
    Option (Text × Text) :=
  match referenceBody? isDigit s with
  | some (digits, rest) =>
      if digits.length ≤ limit then some ([numberedChar (value digits)], rest) else none
  | none => none

def documentReference? : Text -> Option (Text × Text)
  | '#' :: 'x' :: s => numbered? isHexDigit hexToNat 6 s
  | '#' :: 'X' :: s => numbered? isHexDigit hexToNat 6 s
  | '#' :: s => numbered? Char.isDigit toNat 7 s
  | s =>
      match referenceBody? (fun c => c ≠ ';' && c ≠ ' ') (s.take 32) with
      | some (name, _) =>
          match reference? name with
          | some chars => some (chars, s.drop (name.length + 1))
          | none => none
      | none => none

def resolveWithin : Nat -> Text -> Text
  | 0, s => s
  | _ + 1, [] => []
  | fuel + 1, '&' :: s =>
      match documentReference? s with
      | some (chars, rest) => chars ++ resolveWithin fuel rest
      | none => '&' :: resolveWithin fuel s
  | fuel + 1, c :: s => c :: resolveWithin fuel s

def resolveReferences (s : Text) : Text :=
  resolveWithin s.length s

def unescape : Text -> Text
  | '\\' :: c :: s => if isAsciiPunct c then c :: unescape s else '\\' :: unescape (c :: s)
  | c :: s => c :: unescape s
  | [] => []

/-!
# References in escaped code
-/

def isCodeNumber (n : Nat) : Bool :=
  n = 9 || n = 10 || n = 13 || (isScalarValue n && 32 ≤ n && n ≠ 127)

def codeNumber? (isDigit : Char -> Bool) (value : Text -> Nat) (s : Text) :
    Option (Char × Text) :=
  match referenceBody? isDigit s with
  | some (digits, rest) =>
      if isCodeNumber (value digits) then some (Char.ofNat (value digits), rest) else none
  | none => none

def codeReference? : Text -> Option (Char × Text)
  | '#' :: 'x' :: s => codeNumber? isHexDigit hexToNat s
  | '#' :: 'X' :: s => codeNumber? isHexDigit hexToNat s
  | '#' :: s => codeNumber? Char.isDigit toNat s
  | s =>
      match referenceBody? isAsciiAlphanum s with
      | some (name, rest) =>
          match reference? name with
          | some (c :: _) => some (c, rest)
          | _ => none
      | none => none

def decodeWithin : Nat -> Text -> Text
  | 0, s => s
  | _ + 1, [] => []
  | fuel + 1, '&' :: s =>
      match codeReference? s with
      | some (c, rest) => c :: decodeWithin fuel rest
      | none => '&' :: decodeWithin fuel s
  | fuel + 1, c :: s => c :: decodeWithin fuel s

def decodeCode (s : Text) : Text :=
  decodeWithin s.length s

end Text
end Folio
