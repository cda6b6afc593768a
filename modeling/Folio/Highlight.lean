import Folio.Highlight.Block
import Folio.Highlight.Language
import Folio.Text.Escape

/-!
# Highlighted code

A highlighted code block is the code in spans whose classes say what its parts
are.  Plain text has no parts: all of it is in the span of its language.  What the
parts of other code are is left to a highlighter, which knows the grammars of the
languages.
-/

namespace Folio

/-- What a highlighter that knows the grammars makes of a code in a language. -/
class Highlighter where
  markup : Highlight.Language -> Text -> Text

namespace Highlight

/-!
# Code without parts
-/

def classes (scope : Text) : Text :=
  scope.map fun c => if c = '.' then ' ' else c

def spanTag (scope : Text) : Text :=
  "<span class=\"" ++ classes scope ++ "\">"

/-- A code in the span of its language; code of no characters has no span. -/
def spanned (language : Language) (code : Text) : Text :=
  if code = [] then [] else spanTag language.scope ++ Text.escapeCode code ++ "</span>"

end Highlight

/-- The highlighter that knows no grammar. -/
abbrev Highlighter.wholeCode : Highlighter where
  markup := Highlight.spanned

namespace Highlight

/-!
# Highlighted blocks
-/

def languageOf (label : Option Text) : Language :=
  match label with
  | some label => Language.ofLabel label
  | none => Language.plain

def labelMarkup : Option Text -> Text
  | some label => " class=\"language-" ++ label ++ "\""
  | none => []

variable [Highlighter]

def markup (language : Language) (code : Text) : Text :=
  if language = Language.plain then
    spanned language code
  else
    Highlighter.markup language code

def block (label : Option Text) (code : Text) : Text :=
  "<div class=\"codehilite\"><pre><code" ++ labelMarkup label ++ ">" ++
    markup (languageOf label) code ++ "</code></pre></div>"

def page (s : Text) : Text :=
  CodeBlock.replaceAll (fun b => block b.label b.code) s

end Highlight
end Folio
