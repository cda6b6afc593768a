import Folio.Text.Replace
import Folio.Text.Escape
import Folio.Toc

/-!
# Rendering a table of contents

The table is a nested list.  Every entry is an item with a link to its anchor;
entries below it follow inside the item as a list of their own.  Anchors and
names are written as they are, so that both must be markup already.
-/

namespace Folio
namespace Toc

def link (heading : Heading) : Text :=
  "<a href=\"#" ++ heading.id ++ "\">" ++ heading.name ++ "</a>"

mutual

def renderEntry : Entry -> Text
  | Entry.node heading [] => "<li>" ++ link heading ++ "</li>"
  | Entry.node heading (child :: children) =>
      "<li>" ++ link heading ++
        ("<ul>" ++ (renderEntry child ++ renderItems children) ++ "</ul>") ++ "</li>"

def renderItems : List Entry -> Text
  | [] => []
  | entry :: entries => renderEntry entry ++ renderItems entries

end

def render (entries : List Entry) : Text :=
  "<ul>" ++ renderItems entries ++ "</ul>"

/-!
# The marker

A paragraph that holds the marker alone gives way to the table.
-/

def markerParagraph (marker : Text) : Text :=
  "<p>" ++ Text.escapeName marker ++ "</p>"

def block (entries : List Entry) : Text :=
  "<div class=\"toc\">" ++ render entries ++ "</div>"

def expandMarker (marker : Text) (entries : List Entry) (page : Text) : Text :=
  Text.replaceAll (markerParagraph marker) (block entries) page

end Toc
end Folio
