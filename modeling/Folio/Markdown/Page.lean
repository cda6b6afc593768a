import Folio.Text.Escape
import Folio.Markdown.Anchor

/-!
# Pages

A document becomes a row of parts: markup as it stands, places where a new line
must begin, headings with their anchors, paragraphs with tags of their own, and
code blocks, which a style may print in its own way.  Printing the parts gives
the page.
-/

namespace Folio
namespace Markdown

/-- A part of a page.  The ending of a paragraph is markup behind its content:
the links of a note back to its calls. -/
inductive Part where
  | markup (s : Text)
  | freshLine
  | heading (level : Nat) (anchor : Option Text) (content : List Inline)
  | paragraph (content : List Inline) (ending : Text)
  | code (info literal : Text)

/-!
# Running text
-/

namespace Inline

mutual

def alt : Inline -> Text
  | text content => Text.escapeMarkup content
  | code content => Text.escapeMarkup content
  | html s => Text.escapeMarkup s
  | softBreak => [' ']
  | hardBreak => [' ']
  | emphasis content => altAll content
  | strong content => altAll content
  | link _ _ content => altAll content
  | image _ _ content => altAll content
  | noteCall _ _ _ => []

def altAll : List Inline -> Text
  | [] => []
  | inline :: rest => alt inline ++ altAll rest

end

def titleMarkup (title : Text) : Text :=
  if title = [] then [] else "\" title=\"" ++ Text.escapeMarkup title

def callAnchor (name : Text) (occurrence : Nat) : Text :=
  "fnref-" ++ name ++ if 1 < occurrence then '-' :: Text.ofNat occurrence else []

mutual

def markup : Inline -> Text
  | text content => Text.escapeMarkup content
  | code content => "<code>" ++ Text.escapeMarkup content ++ "</code>"
  | html s => s
  | softBreak => ['\n']
  | hardBreak => "<br />\n"
  | emphasis content => "<em>" ++ markupAll content ++ "</em>"
  | strong content => "<strong>" ++ markupAll content ++ "</strong>"
  | link target title content =>
      "<a href=\"" ++ Text.escapeTarget target ++ titleMarkup title ++ "\">" ++
        markupAll content ++ "</a>"
  | image target title content =>
      "<img src=\"" ++ Text.escapeTarget target ++ "\" alt=\"" ++ altAll content ++
        titleMarkup title ++ "\" />"
  | noteCall name number occurrence =>
      "<sup class=\"footnote-ref\"><a href=\"#fn-" ++ Text.escapeTarget name ++ "\" id=\"" ++
        Text.escapeTarget (callAnchor name occurrence) ++ "\" data-footnote-ref>" ++
        Text.ofNat number ++ "</a></sup>"

def markupAll : List Inline -> Text
  | [] => []
  | inline :: rest => markup inline ++ markupAll rest

end

end Inline

/-!
# Blocks

The anchors given out so far and the notes printed so far go along with the
blocks.
-/

/-- What was printed before a block: the anchors of headings, the number of
notes, and the number of the last note with links back to its calls. -/
structure Trail where
  anchors : Anchors
  notes : Nat
  linked : Nat

namespace Trail

def start : Trail where
  anchors := []
  notes := 0
  linked := 0

end Trail

def alignmentMarkup : Alignment -> Text
  | Alignment.none => []
  | Alignment.left => " align=\"left\""
  | Alignment.center => " align=\"center\""
  | Alignment.right => " align=\"right\""

def listTag : ListStyle -> Text
  | ListStyle.bullet => "ul"
  | ListStyle.numbered _ => "ol"

def listAttributes : ListStyle -> Text
  | ListStyle.bullet => []
  | ListStyle.numbered start =>
      if start = 1 then [] else " start=\"" ++ Text.ofNat start ++ "\""

def backLink (name : Text) (number occurrence : Nat) : Text :=
  let mark : Text := if 1 < occurrence then '-' :: Text.ofNat occurrence else []
  let raised : Text :=
    if 1 < occurrence then
      "<sup class=\"footnote-ref\">" ++ Text.ofNat occurrence ++ "</sup>"
    else
      []
  "<a href=\"#fnref-" ++ Text.escapeTarget name ++ mark ++
    "\" class=\"footnote-backref\" data-footnote-backref data-footnote-backref-idx=\"" ++
    Text.ofNat number ++ mark ++ "\" aria-label=\"Back to reference " ++ Text.ofNat number ++
    mark ++ "\">↩" ++ raised ++ "</a>"

def backLinks (name : Text) (number calls : Nat) : Text :=
  Text.join [' '] ((List.range calls).map fun n => backLink name number (n + 1))

def Trail.backLinks (trail : Trail) (name : Text) (calls : Nat) : Option (Text × Trail) :=
  if trail.notes ≤ trail.linked then
    none
  else
    some (Markdown.backLinks name trail.notes calls, { trail with linked := trail.notes })

def cellParts (tag : Text) : List Alignment -> List (List Inline) -> List Part
  | _, [] => []
  | columns, cell :: rest =>
      let alignment := columns.head?.getD Alignment.none
      Part.freshLine ::
        Part.markup ("<" ++ tag ++ alignmentMarkup alignment ++ ">" ++ Inline.markupAll cell ++
          "</" ++ tag ++ ">") ::
        cellParts tag (columns.drop 1) rest

def rowParts (tag : Text) (columns : List Alignment) (row : List (List Inline)) : List Part :=
  [Part.freshLine, Part.markup "<tr>"] ++ cellParts tag columns row ++
    [Part.freshLine, Part.markup "</tr>"]

def tableParts (columns : List Alignment) : List (List (List Inline)) -> List Part
  | [] => []
  | header :: rows =>
      [Part.freshLine, Part.markup "<table>\n<thead>"] ++ rowParts "th" columns header ++
        [Part.freshLine, Part.markup "</thead>"] ++
        (if rows = [] then
          []
        else
          [Part.freshLine, Part.markup "<tbody>"] ++ rows.flatMap (rowParts "td" columns) ++
            [Part.freshLine, Part.markup "</tbody>\n"]) ++
        [Part.freshLine, Part.markup "</table>\n"]

/-- The name of a note and the number of its calls, for the last block in it. -/
abbrev NoteEnd := Option (Text × Nat)

def paragraphParts (tight : Bool) (noteEnd : NoteEnd) (trail : Trail) (content : List Inline) :
    List Part × Trail :=
  if tight then
    ([Part.markup (Inline.markupAll content)], trail)
  else
    match noteEnd with
    | none => ([Part.freshLine, Part.paragraph content []], trail)
    | some (name, calls) =>
        match trail.backLinks name calls with
        | some (links, trail) => ([Part.freshLine, Part.paragraph content (' ' :: links)], trail)
        | none => ([Part.freshLine, Part.paragraph content [' ']], trail)

def headingParts (anchored : Bool) (trail : Trail) (level : Nat) (content : List Inline) :
    List Part × Trail :=
  if anchored then
    let id := trail.anchors.assign (Inline.plainAll content)
    ([Part.freshLine, Part.heading level (some id) content],
      { trail with anchors := id :: trail.anchors })
  else
    ([Part.freshLine, Part.heading level none content], trail)

mutual

/-- The parts of a block.  `tight` says that a paragraph here has no tags of its
own, and `noteEnd` that the block is the last one of a note. -/
def blockParts (anchored tight : Bool) (noteEnd : NoteEnd) (trail : Trail) :
    Block -> List Part × Trail
  | Block.paragraph content => paragraphParts tight noteEnd trail content
  | Block.heading level content => headingParts anchored trail level content
  | Block.code info literal => ([Part.freshLine, Part.code info literal], trail)
  | Block.html literal => ([Part.freshLine, Part.markup literal, Part.freshLine], trail)
  | Block.rule => ([Part.freshLine, Part.markup "<hr />\n"], trail)
  | Block.quote content =>
      let (parts, trail) := blocksParts anchored false none trail content
      ([Part.freshLine, Part.markup "<blockquote>\n"] ++ parts ++
        [Part.freshLine, Part.markup "</blockquote>\n"], trail)
  | Block.list style isTight items =>
      let (parts, trail) := blocksParts anchored isTight none trail items
      ([Part.freshLine, Part.markup ("<" ++ listTag style ++ listAttributes style ++ ">\n")] ++
        parts ++ [Part.markup ("</" ++ listTag style ++ ">\n")], trail)
  | Block.item content =>
      let (parts, trail) := blocksParts anchored tight none trail content
      ([Part.freshLine, Part.markup "<li>"] ++ parts ++ [Part.markup "</li>\n"], trail)
  | Block.table columns rows => (tableParts columns rows, trail)
  | Block.definitions content =>
      let (parts, trail) := blocksParts anchored false none trail content
      ([Part.freshLine, Part.markup "<dl>\n"] ++ parts ++ [Part.markup "</dl>\n"], trail)
  | Block.term content =>
      ([Part.markup ("<dt>" ++ Inline.markupAll content ++ "</dt>\n")], trail)
  | Block.details isTight content =>
      let (parts, trail) := blocksParts anchored isTight none trail content
      ([Part.markup "<dd>"] ++ parts ++ [Part.markup "</dd>\n"], trail)
  | Block.note name calls content =>
      let sectionStart : List Part :=
        if trail.notes = 0 then
          [Part.markup "<section class=\"footnotes\" data-footnotes>\n<ol>\n"]
        else
          []
      let itemStart := "<li id=\"fn-" ++ Text.escapeTarget name ++ "\">"
      let (parts, trail) :=
        blocksParts anchored false (some (name, calls)) { trail with notes := trail.notes + 1 }
          content
      let (links, trail) : Text × Trail :=
        match trail.backLinks name calls with
        | some (links, trail) => (links ++ ['\n'], trail)
        | none => ([], trail)
      (sectionStart ++ [Part.markup itemStart] ++ parts ++ [Part.markup (links ++ "</li>\n")],
        trail)

def blocksParts (anchored tight : Bool) (noteEnd : NoteEnd) (trail : Trail) :
    List Block -> List Part × Trail
  | [] => ([], trail)
  | block :: rest =>
      let (first, trail) :=
        blockParts anchored tight (if rest.isEmpty then noteEnd else none) trail block
      let (others, trail) := blocksParts anchored tight noteEnd trail rest
      (first ++ others, trail)

end

def parts (anchored : Bool) (document : Document) : List Part :=
  let (parts, trail) := blocksParts anchored false none Trail.start document
  if trail.notes = 0 then parts else parts ++ [Part.markup "</ol>\n</section>\n"]

/-!
# Printing
-/

def anchorMarkup (id : Text) : Text :=
  "<a inert href=\"#" ++ id ++ "\" aria-hidden=\"true\" class=\"anchor\" id=\"" ++ id ++ "\"></a>"

def headingMarkup (level : Nat) (anchor : Option Text) (content : List Inline) : Text :=
  let mark : Text :=
    match anchor with
    | some id => anchorMarkup id
    | none => []
  "<h" ++ Text.ofNat level ++ ">" ++ mark ++ Inline.markupAll content ++
    "</h" ++ Text.ofNat level ++ ">"

def paragraphMarkup (content : List Inline) (ending : Text) : Text :=
  "<p>" ++ Inline.markupAll content ++ ending ++ "</p>"

def languageOf (info : Text) : Option Text :=
  if info = [] then none else some (info.takeWhile fun c => !Text.isAsciiSpace c)

def plainCode (info literal : Text) : Text :=
  let attributes : Text :=
    match languageOf info with
    | none => []
    | some language =>
        " class=\"language-" ++ Text.escapeMarkup language ++ "\"" ++
          if info = "math".toList then " data-math-style=\"display\"" else ""
  "<pre><code" ++ attributes ++ ">" ++ Text.escapeMarkup literal ++ "</code></pre>\n"

def endsLine (atStart : Bool) (s : Text) : Bool :=
  match s.getLast? with
  | none => atStart
  | some c => c = '\n'

/-- Prints parts; `atStart` says whether a line begins here, and `code` how code
blocks look. -/
def printFrom (code : Text -> Text -> Text) (atStart : Bool) : List Part -> Text
  | [] => []
  | Part.markup s :: rest => s ++ printFrom code (endsLine atStart s) rest
  | Part.freshLine :: rest =>
      if atStart then printFrom code true rest else '\n' :: printFrom code true rest
  | Part.heading level anchor content :: rest =>
      headingMarkup level anchor content ++ '\n' :: printFrom code true rest
  | Part.paragraph content ending :: rest =>
      paragraphMarkup content ending ++ '\n' :: printFrom code true rest
  | Part.code info literal :: rest =>
      let s := code info literal
      s ++ printFrom code (endsLine atStart s) rest

def print (code : Text -> Text -> Text) (parts : List Part) : Text :=
  printFrom code true parts

def page (anchored : Bool) (document : Document) : Text :=
  print plainCode (parts anchored document)

end Markdown
end Folio
