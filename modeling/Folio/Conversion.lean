import Folio.Highlight
import Folio.Markdown.Page
import Folio.Markdown.Reader
import Folio.Settings
import Folio.Toc.Nesting
import Folio.Toc.Rendering

/-!
# Conversion

A Markdown source becomes a page and the forest of its headings.  The settings
say which extensions take part: the dialect of the reader, the highlighting of
code, and the table of contents with the anchors it links to.
-/

namespace Folio

structure Conversion where
  page : Text
  headings : List Toc.Entry

namespace Conversion

def toc (conversion : Conversion) : Text :=
  Toc.render conversion.headings

end Conversion

namespace Settings

def dialect (settings : Settings) : Markdown.Dialect :=
  if settings.has Extension.extra then Markdown.Dialect.extra else Markdown.Dialect.plain

def headings (settings : Settings) (document : Markdown.Document) : List Toc.Entry :=
  if settings.has Extension.toc then
    Toc.nest settings.toc (Markdown.headings document)
  else
    []

variable [Highlighter]

def styled (settings : Settings) (page : Text) : Text :=
  if settings.has Extension.codeHighlighting then Highlight.page page else page

def page (settings : Settings) (document : Markdown.Document) : Text :=
  let styled := settings.styled (Markdown.page (settings.has Extension.toc) document)
  if settings.has Extension.toc then
    Toc.expandMarker settings.toc.marker (settings.headings document) styled
  else
    styled

def convert (settings : Settings) (source : Text) : Conversion :=
  let document := Markdown.read settings.dialect source
  { page := settings.page document
    headings := settings.headings document }

end Settings

end Folio
