import Folio.Text.Replace

/-!
# Page templates

A template is a page with three placeholders.  They are filled one after the
other, the content first, then the title, then the table of contents, so that a
placeholder inside a value filled in earlier is filled as well.
-/

namespace Folio
namespace Template

def contentPlaceholder : Text :=
  "CONTENTSHERE"

def titlePlaceholder : Text :=
  "TITLEHERE"

def tocPlaceholder : Text :=
  "TOCHERE"

def fill (template content title toc : Text) : Text :=
  Text.replaceAll tocPlaceholder toc
    (Text.replaceAll titlePlaceholder title
      (Text.replaceAll contentPlaceholder content template))

end Template
end Folio
