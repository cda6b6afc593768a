import Folio.Text.Category

/-!
# White space

White space is the Unicode property of that name: the blanks, the line and
paragraph separators and the controls from tab to carriage return.
-/

namespace Folio
namespace Text

def spaceRanges : List (Nat × Nat) :=
  [(9, 13), (32, 32), (133, 133), (160, 160), (5760, 5760), (8192, 8202), (8232, 8233),
   (8239, 8239), (8287, 8287), (12288, 12288)]

def isSpace (c : Char) : Bool :=
  inRanges spaceRanges c

def trimStart (s : Text) : Text :=
  s.dropWhile isSpace

def trim (s : Text) : Text :=
  dropEndWhile isSpace (trimStart s)

def isBlank (s : Text) : Bool :=
  s.all isSpace

end Text
end Folio
