import Folio.Text.Decode

/-!
# Scanning

A scan takes a known form off the front of a text and gives what follows it, or
nothing when the text does not start with that form.  All scans are greedy: each
part takes as many characters as it can.
-/

namespace Folio
namespace Markdown

abbrev Scan := Text -> Option Text

namespace Scan

def char (c : Char) : Scan
  | d :: s => if c = d then some s else none
  | [] => none

def sat (p : Char -> Bool) : Scan
  | c :: s => if p c then some s else none
  | [] => none

def many1 (p : Char -> Bool) : Scan
  | c :: s => if p c then some (s.dropWhile p) else none
  | [] => none

def caseless : Text -> Scan
  | [], s => some s
  | _ :: _, [] => none
  | c :: word, d :: s => if c = d.toLower then caseless word s else none

def optional (scan : Scan) (s : Text) : Text :=
  (scan s).getD s

def firstOf (scans : List Scan) (s : Text) : Option Text :=
  scans.findSome? fun scan => scan s

def taken (s rest : Text) : Text :=
  s.take (s.length - rest.length)

def spaces (s : Text) : Text :=
  s.dropWhile Text.isAsciiSpace

/-!
# Tags

The scans for tags begin behind the opening angle bracket.
-/

def tagName : Scan
  | c :: s =>
      if Text.isAsciiAlpha c then
        some (s.dropWhile fun d => Text.isAsciiAlphanum d || d = '-')
      else
        none
  | [] => none

def isAttributeStart (c : Char) : Bool :=
  Text.isAsciiAlpha c || c = '_' || c = ':'

def isAttributeChar (c : Char) : Bool :=
  Text.isAsciiAlphanum c || c = ':' || c = '.' || c = '_' || c = '-'

def isUnquotedChar (c : Char) : Bool :=
  !Text.isAsciiSpace c && c ≠ '"' && c ≠ '\'' && c ≠ '=' && c ≠ '<' && c ≠ '>' && c ≠ '`'

def htmlValue : Scan
  | '"' :: s => char '"' (s.dropWhile fun c => c ≠ '"')
  | '\'' :: s => char '\'' (s.dropWhile fun c => c ≠ '\'')
  | s => many1 isUnquotedChar s

def htmlAttribute (s : Text) : Option Text := do
  let s <- many1 Text.isAsciiSpace s
  let s <- sat isAttributeStart s
  let s := s.dropWhile isAttributeChar
  match char '=' (spaces s) with
  | some value => htmlValue (spaces value)
  | none => some s

def attributes : Nat -> Text -> Text
  | 0, s => s
  | limit + 1, s =>
      match htmlAttribute s with
      | some rest => attributes limit rest
      | none => s

def openTag (s : Text) : Option Text := do
  let s <- tagName s
  let s := spaces (attributes s.length s)
  char '>' (optional (char '/') s)

def closeTag (s : Text) : Option Text := do
  let s <- char '/' s
  let s <- tagName s
  char '>' (spaces s)

def tag : Scan :=
  firstOf [openTag, closeTag]

/-!
# Comments and other declarations

The scans below run from the first character of the body to the place where it
ends.
-/

/-- The body of a comment and its closing mark.  Two dashes that no `>` follows
take the next character with them. -/
def commentBody : Scan
  | '-' :: '-' :: '>' :: s => some s
  | '-' :: '-' :: _ :: s => commentBody s
  | ['-', '-'] => none
  | '-' :: _ :: s => commentBody s
  | ['-'] => none
  | _ :: s => commentBody s
  | [] => none

def sectionBody : Text -> Text
  | ']' :: ']' :: '>' :: s => ']' :: ']' :: '>' :: s
  | ']' :: ']' :: _ :: s => sectionBody s
  | [']', ']'] => [']', ']']
  | ']' :: _ :: s => sectionBody s
  | [']'] => [']']
  | _ :: s => sectionBody s
  | [] => []

def instructionBody : Text -> Text
  | '?' :: '>' :: s => '?' :: '>' :: s
  | '?' :: _ :: s => instructionBody s
  | ['?'] => ['?']
  | _ :: s => instructionBody s
  | [] => []

/-!
# Addresses in angle brackets
-/

def isSchemeChar (c : Char) : Bool :=
  Text.isAsciiAlphanum c || c = '.' || c = '+' || c = '-'

def isAddressChar (c : Char) : Bool :=
  ' ' < c && c ≠ '<' && c ≠ '>'

def addressLink (s : Text) : Option Text := do
  let _ <- sat Text.isAsciiAlpha s
  let scheme := s.takeWhile isSchemeChar
  if 2 ≤ scheme.length ∧ scheme.length ≤ 32 then
    let s <- char ':' (s.drop scheme.length)
    char '>' (s.dropWhile isAddressChar)
  else
    none

def isMailboxChar (c : Char) : Bool :=
  Text.isAsciiAlphanum c || ".!#$%&'*+/=?^_`\x7b|\x7d~-".toList.contains c

def isDomainLabel (label : Text) : Bool :=
  label ≠ [] && label.length ≤ 63 && label.head? ≠ some '-' && label.getLast? ≠ some '-'

def mailLink (s : Text) : Option Text := do
  let s <- many1 isMailboxChar s
  let s <- char '@' s
  let isDomainChar := fun c => Text.isAsciiAlphanum c || c = '-' || c = '.'
  let domain := s.takeWhile isDomainChar
  if (Text.splitAt '.' domain).all isDomainLabel then
    char '>' (s.drop domain.length)
  else
    none

end Scan

/-!
# Link destinations, titles and labels
-/

def bracketedDestination (taken : Text) : Text -> Option (Text × Text)
  | '>' :: s => some (taken.reverse, s)
  | '\\' :: c :: s => bracketedDestination (c :: '\\' :: taken) s
  | ['\\'] => none
  | '\n' :: _ => none
  | '\r' :: _ => none
  | '<' :: _ => none
  | c :: s => bracketedDestination (c :: taken) s
  | [] => none

def isControl (c : Char) : Bool :=
  c < ' ' || c = '\x7f'

/-- A destination without brackets; its parentheses are balanced or escaped and
nest at most thirty-two deep. -/
def bareDestination (taken : Text) (depth : Nat) : Text -> Option (Text × Text)
  | [] => none
  | '\\' :: c :: s =>
      if Text.isAsciiPunct c then
        bareDestination (c :: '\\' :: taken) depth s
      else
        bareDestination ('\\' :: taken) depth (c :: s)
  | c :: s =>
      if c = '(' then
        if depth < 32 then bareDestination (c :: taken) (depth + 1) s else none
      else if c = ')' then
        if depth = 0 then
          some (taken.reverse, c :: s)
        else
          bareDestination (c :: taken) (depth - 1) s
      else if Text.isAsciiSpace c || isControl c then
        if taken = [] ∨ depth ≠ 0 then none else some (taken.reverse, c :: s)
      else
        bareDestination (c :: taken) depth s

def destination? : Text -> Option (Text × Text)
  | '<' :: s =>
      match bracketedDestination [] s with
      | some (_, []) => none
      | found => found
  | s => bareDestination [] 0 s

/-- The length of a title's body up to its closing mark.  A closing mark behind
a backslash ends the title only when no later one does. -/
def titleEnd (stops : Char -> Bool) (close : Char) (candidate : Option Nat) (count : Nat)
    (escaped : Bool) : Text -> Option Nat
  | [] => candidate
  | c :: s =>
      if c = close then
        if escaped then
          titleEnd stops close (some count) (count + 1) false s
        else
          some count
      else if stops c && !escaped then
        candidate
      else
        titleEnd stops close candidate (count + 1) (c = '\\') s

def title? : Text -> Option (Text × Text)
  | '"' :: s => (titleEnd (fun _ => false) '"' none 0 false s).map fun n => (s.take n, s.drop (n + 1))
  | '\'' :: s =>
      (titleEnd (fun _ => false) '\'' none 0 false s).map fun n => (s.take n, s.drop (n + 1))
  | '(' :: s => (titleEnd (fun c => c = '(') ')' none 0 false s).map fun n => (s.take n, s.drop (n + 1))
  | _ => none

def labelBody (taken : Text) (size : Nat) : Text -> Option (Text × Text)
  | [] => none
  | ']' :: s => some (taken.reverse, s)
  | '[' :: _ => none
  | '\\' :: c :: s =>
      if Text.isAsciiPunct c then
        if size + 2 ≤ 1000 then labelBody (c :: '\\' :: taken) (size + 2) s else none
      else if size + 1 ≤ 1000 then
        labelBody ('\\' :: taken) (size + 1) (c :: s)
      else
        none
  | c :: s =>
      if size + c.utf8Size ≤ 1000 then labelBody (c :: taken) (size + c.utf8Size) s else none

def label? : Text -> Option (Text × Text)
  | '[' :: s => (labelBody [] 0 s).map fun (label, rest) => (Text.trimAscii label, rest)
  | _ => none

/-!
# Cleaning

What a link stores has its references read and its escapes taken away.
-/

def cleanText (s : Text) : Text :=
  Text.unescape (Text.resolveReferences s)

def cleanDestination (s : Text) : Text :=
  cleanText (Text.trimAscii s)

end Markdown
end Folio
