import Folio.Markdown
import Folio.Markdown.Scan

/-!
# Where blocks begin

The first characters of a line, behind its indentation, say whether a block
begins there.  Every recognizer here reads the rest of a line together with its
line feed.
-/

namespace Folio
namespace Markdown

namespace Start

/-!
# Headings, rules and fences
-/

def heading? (s : Text) : Option (Nat × Nat) :=
  let marks := s.takeWhile fun c => c = '#'
  let rest := s.drop marks.length
  let blanks := (rest.takeWhile Text.isSpaceOrTab).length
  if marks = [] ∨ 6 < marks.length then
    none
  else if blanks ≠ 0 then
    some (marks.length, marks.length + blanks)
  else
    match rest with
    | '\n' :: _ => some (marks.length, marks.length + 1)
    | _ => none

def headingText (s : Text) : Text :=
  let s := Text.trimAsciiEnd s
  let body := Text.dropEndWhile (fun c => c = '#') s
  if body.length = s.length then
    s
  else
    match body.getLast? with
    | none => []
    | some c => if Text.isSpaceOrTab c then Text.trimAsciiEnd body else s

def underline? (s : Text) : Option Nat :=
  let isEnd := fun mark : Char =>
    Scan.sat (fun c => c = '\n') ((s.dropWhile fun c => c = mark).dropWhile Text.isSpaceOrTab)
  match s with
  | '=' :: _ => (isEnd '=').map fun _ => 1
  | '-' :: _ => (isEnd '-').map fun _ => 2
  | _ => none

def isRule (s : Text) : Bool :=
  match s with
  | mark :: _ =>
      let marks := s.filter fun c => !Text.isSpaceOrTab c && c ≠ '\n'
      (mark = '*' || mark = '_' || mark = '-') && 3 ≤ marks.length && marks.all fun c => c = mark
  | [] => false

def fence? (s : Text) : Option (Char × Nat) :=
  match s with
  | '`' :: _ =>
      let ticks := (s.takeWhile fun c => c = '`').length
      if 3 ≤ ticks ∧ !(s.drop ticks).contains '`' then some ('`', ticks) else none
  | '~' :: _ =>
      let marks := (s.takeWhile fun c => c = '~').length
      if 3 ≤ marks then some ('~', marks) else none
  | _ => none

def closesFence (mark : Char) (length : Nat) (s : Text) : Bool :=
  let marks := s.takeWhile fun c => c = mark
  let rest := (s.drop marks.length).dropWhile Text.isSpaceOrTab
  length ≤ marks.length && rest == ['\n']

end Start

/-!
# Raw markup blocks

The seven kinds of raw markup differ in what begins them and in what ends them:
a closing mark on one of their lines or, for the last two, a blank line.
-/

inductive HtmlKind where
  | verbatim
  | comment
  | instruction
  | declaration
  | characterData
  | element
  | completeTag
  deriving DecidableEq

namespace HtmlKind

def endsAtBlank : HtmlKind -> Bool
  | element => true
  | completeTag => true
  | _ => false

def closers : HtmlKind -> List Text
  | verbatim => ["</script>", "</pre>", "</textarea>", "</style>"]
  | comment => ["-->"]
  | instruction => ["?>"]
  | declaration => [">"]
  | characterData => ["]]>"]
  | _ => []

def endsOn (kind : HtmlKind) (line : Text) : Bool :=
  kind.closers.any fun closer => Text.contains closer (Text.asciiLower line)

end HtmlKind

namespace Start

def verbatimElements : List Text :=
  ["script".toList, "pre".toList, "textarea".toList, "style".toList]

def blockElements : List Text :=
  ["address", "article", "aside", "base", "basefont", "blockquote", "body", "caption", "center",
   "col", "colgroup", "dd", "details", "dialog", "dir", "div", "dl", "dt", "fieldset",
   "figcaption", "figure", "footer", "form", "frame", "frameset", "h1", "h2", "h3", "h4", "h5",
   "h6", "head", "header", "hr", "html", "iframe", "legend", "li", "link", "main", "menu",
   "menuitem", "nav", "noframes", "ol", "optgroup", "option", "p", "param", "search", "section",
   "summary", "table", "tbody", "td", "tfoot", "th", "thead", "title", "tr", "track", "ul"].map String.toList

def isElementEnd : Text -> Bool
  | '>' :: _ => true
  | c :: _ => Text.isAsciiSpace c
  | [] => false

def opensVerbatim (s : Text) : Bool :=
  verbatimElements.any fun name =>
    match Scan.caseless name s with
    | some rest => isElementEnd rest
    | none => false

def opensElement (s : Text) : Bool :=
  let s := Scan.optional (Scan.char '/') s
  let name := Text.asciiLower (s.takeWhile Text.isAsciiAlphanum)
  let rest := s.drop name.length
  blockElements.contains name &&
    (isElementEnd rest || Text.startsWith "/>" rest)

def html? : Text -> Option HtmlKind
  | '<' :: s =>
      if opensVerbatim s then
        some HtmlKind.verbatim
      else
        match s with
        | '!' :: '-' :: '-' :: _ => some HtmlKind.comment
        | '?' :: _ => some HtmlKind.instruction
        | '!' :: rest =>
            if (Scan.caseless "[cdata[" rest).isSome then
              some HtmlKind.characterData
            else if (Scan.sat Text.isAsciiAlpha rest).isSome then
              some HtmlKind.declaration
            else
              none
        | s => if opensElement s then some HtmlKind.element else none
  | _ => none

def htmlTag? : Text -> Option HtmlKind
  | '<' :: s =>
      match Scan.tag s with
      | some rest =>
          match rest.dropWhile fun c => c = ' ' || c = '\t' || c = '\x0c' || c = '\n' with
          | [] => if rest = [] then none else some HtmlKind.completeTag
          | _ => none
      | none => none
  | _ => none

end Start

/-!
# Lists, details and notes
-/

inductive Marker where
  | bullet (mark : Char)
  | number (start : Nat) (delimiter : Char)
  deriving DecidableEq

namespace Marker

/-- Whether items with these markers belong to one list. -/
def continues : Marker -> Marker -> Bool
  | bullet a, bullet b => a == b
  | number _ a, number _ b => a == b
  | _, _ => false

def style : Marker -> ListStyle
  | bullet _ => ListStyle.bullet
  | number start _ => ListStyle.numbered start

end Marker

namespace Start

/-- Whether an item may begin with what follows its marker; one that would
interrupt a paragraph must have text. -/
def isItemStart (interrupts : Bool) : Text -> Bool
  | c :: s =>
      Text.isAsciiSpace c &&
        !(interrupts && ((c :: s).dropWhile Text.isSpaceOrTab).head? == some '\n')
  | [] => false

def item? (interrupts : Bool) (s : Text) : Option (Marker × Nat) :=
  match s with
  | [] => none
  | c :: rest =>
      if c = '*' || c = '-' || c = '+' then
        if isItemStart interrupts rest then some (Marker.bullet c, 1) else none
      else
        let digits := (s.takeWhile Char.isDigit).take 9
        let start := Text.toNat digits
        if digits = [] ∨ (interrupts ∧ start ≠ 1) then
          none
        else
          match s.drop digits.length with
          | delimiter :: rest =>
              if (delimiter = '.' || delimiter = ')') && isItemStart interrupts rest then
                some (Marker.number start delimiter, digits.length + 1)
              else
                none
          | [] => none

def details? : Text -> Option Nat
  | c :: s =>
      let blanks := (s.takeWhile Text.isSpaceOrTab).length
      if (c = ':' || c = '~') && blanks ≠ 0 then some (1 + blanks) else none
  | [] => none

def isNoteChar (c : Char) : Bool :=
  c ≠ ']' && c ≠ '\n' && c ≠ '\t' && c ≠ ' '

def note? : Text -> Option (Text × Nat)
  | '[' :: '^' :: s =>
      let name := s.takeWhile isNoteChar
      match s.drop name.length with
      | ']' :: ':' :: rest =>
          if name = [] then
            none
          else
            some (name, name.length + 4 + (rest.takeWhile Text.isSpaceOrTab).length)
      | _ => none
  | _ => none

end Start

end Markdown
end Folio
