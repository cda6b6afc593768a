import Folio.Text

/-!
# Markup escaping

Three escapers write text so that markup reads it back unchanged.  They differ
only in the set of characters they name by a reference: heading names need
`&`, `<` and `>`; text and attribute values of a rendered page also need the
double quote; highlighted code names the apostrophe as well.
-/

namespace Folio
namespace Text

def nameEscape : Char -> Text
  | '&' => "&amp;"
  | '<' => "&lt;"
  | '>' => "&gt;"
  | c => [c]

def markupEscape : Char -> Text
  | '"' => "&quot;"
  | c => nameEscape c

def codeEscape : Char -> Text
  | '\'' => "&#39;"
  | c => markupEscape c

def escapeName (s : Text) : Text :=
  s.flatMap nameEscape

def escapeMarkup (s : Text) : Text :=
  s.flatMap markupEscape

def escapeCode (s : Text) : Text :=
  s.flatMap codeEscape

theorem escapeMarkup_append (s t : Text) :
    escapeMarkup (s ++ t) = escapeMarkup s ++ escapeMarkup t := by
  simp [escapeMarkup]

/-!
# Link targets

A link target keeps the characters that addresses are written with.  An
ampersand and an apostrophe become references, and every other character is
written byte by byte as a percent sign with two hexadecimal digits.
-/

def isTargetChar (c : Char) : Bool :=
  isAsciiAlphanum c || "-_.+!*(),%#@?=;:/$~".toList.contains c

def utf8Bytes (c : Char) : List UInt8 :=
  (String.singleton c).toUTF8.toList

def hexDigit (n : Nat) : Char :=
  (Nat.digitChar n).toUpper

def percentByte (b : UInt8) : Text :=
  ['%', hexDigit (b.toNat / 16), hexDigit (b.toNat % 16)]

def targetEscape (c : Char) : Text :=
  if isTargetChar c then
    [c]
  else if c = '&' then
    "&amp;"
  else if c = '\'' then
    "&#x27;"
  else
    (utf8Bytes c).flatMap percentByte

def escapeTarget (s : Text) : Text :=
  s.flatMap targetEscape

end Text
end Folio
