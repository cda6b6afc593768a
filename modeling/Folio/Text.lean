/-!
# Texts

Every document, page, path and message of the library is a text: a finite list
of characters.  Lists keep the reading and writing functions open to
induction; strings appear only where the program meets the outside world.
-/

namespace Folio

abbrev Text := List Char

instance textOfString : Coe String (List Char) where
  coe := String.toList

namespace Text

/-!
# Numbers

Numbers are written in decimal digits without leading zeros.
-/

def ofNat (n : Nat) : Text :=
  Nat.toDigits 10 n

def ofInt : Int -> Text
  | Int.ofNat n => ofNat n
  | Int.negSucc n => '-' :: ofNat (n + 1)

def digitValue (c : Char) : Nat :=
  c.toNat - '0'.toNat

def toNat (digits : Text) : Nat :=
  digits.foldl (fun n c => 10 * n + digitValue c) 0

def hexValue (c : Char) : Nat :=
  if c.isDigit then
    c.toNat - '0'.toNat
  else if 'a' ≤ c ∧ c ≤ 'f' then
    c.toNat - 'a'.toNat + 10
  else
    c.toNat - 'A'.toNat + 10

def isHexDigit (c : Char) : Bool :=
  c.isDigit || ('a' ≤ c && c ≤ 'f') || ('A' ≤ c && c ≤ 'F')

def hexToNat (digits : Text) : Nat :=
  digits.foldl (fun n c => 16 * n + hexValue c) 0

/-!
# Lead texts

Reading proceeds by taking a known text off the front of another one.
-/

def after? : Text -> Text -> Option Text
  | [], s => some s
  | _ :: _, [] => none
  | c :: lead, d :: s => if c = d then after? lead s else none

def startsWith (lead s : Text) : Bool :=
  (after? lead s).isSome

theorem after?_eq_some_iff {lead s rest : Text} :
    after? lead s = some rest ↔ s = lead ++ rest := by
  induction lead generalizing s with
  | nil =>
      simp [after?]
  | cons c lead ih =>
      cases s with
      | nil =>
          simp [after?]
      | cons d s =>
          by_cases h : c = d
          · simp [after?, h, ih]
          · simp [after?, h, Ne.symm h]

theorem after?_append (lead rest : Text) : after? lead (lead ++ rest) = some rest :=
  after?_eq_some_iff.mpr rfl

def contains (needle : Text) : Text -> Bool
  | [] => startsWith needle []
  | c :: s => startsWith needle (c :: s) || contains needle s

/-!
# Cutting

A text can be cut at every occurrence of a character, and a list of texts can
be joined with a separator between each two of them.
-/

def splitAt (sep : Char) : Text -> List Text
  | [] => [[]]
  | c :: s =>
      match splitAt sep s with
      | [] => [[c]]
      | part :: parts =>
          if c = sep then [] :: part :: parts else (c :: part) :: parts

def join (sep : Text) : List Text -> Text
  | [] => []
  | [part] => part
  | part :: parts => part ++ sep ++ join sep parts

def linesInclusive : Text -> List Text
  | [] => []
  | c :: s =>
      match linesInclusive s with
      | [] => [[c]]
      | line :: lines =>
          if c = '\n' then [c] :: line :: lines else (c :: line) :: lines

def dropEndWhile (p : Char -> Bool) (s : Text) : Text :=
  (s.reverse.dropWhile p).reverse

def utf8Length (s : Text) : Nat :=
  s.foldl (fun n c => n + c.utf8Size) 0

/-!
# Plain letter case

Keywords of formats compare without regard to the case of the letters A to Z.
-/

def asciiLower (s : Text) : Text :=
  s.map Char.toLower

def isAsciiPunct (c : Char) : Bool :=
  ('!' ≤ c && c ≤ '/') || (':' ≤ c && c ≤ '@') || ('[' ≤ c && c ≤ '`') ||
    ('\x7b' ≤ c && c ≤ '~')

def isAsciiSpace (c : Char) : Bool :=
  c = ' ' || ('\t' ≤ c && c ≤ '\r')

def isSpaceOrTab (c : Char) : Bool :=
  c = ' ' || c = '\t'

def isAsciiAlpha (c : Char) : Bool :=
  ('a' ≤ c && c ≤ 'z') || ('A' ≤ c && c ≤ 'Z')

def isAsciiAlphanum (c : Char) : Bool :=
  isAsciiAlpha c || c.isDigit

def trimAscii (s : Text) : Text :=
  dropEndWhile isAsciiSpace (s.dropWhile isAsciiSpace)

def trimAsciiEnd (s : Text) : Text :=
  dropEndWhile isAsciiSpace s

end Text

end Folio
