import Folio.Conversion
import Folio.Job
import Folio.Template

/-!
# Building a page

A build reads the source, converts it, reads the template, fills it and writes the
page.  Nothing is written before everything else has succeeded.
-/

namespace Folio

/-!
# Converters
-/

/-- A way to convert a source, with what is noted about a conversion. -/
structure Converter where
  convert : Text -> Except Text Conversion
  notes : Conversion -> List Log.Record

namespace Converter

def constant (answer : Except Text Conversion) : Converter where
  convert := fun _ => answer
  notes := fun _ => []

end Converter

namespace Settings

def conversionOrigin : Text :=
  "syntaxdoc::markdown::engine::comrak"

def converter [Highlighter] (settings : Settings) : Converter where
  convert := fun source => Except.ok (settings.convert source)
  notes := fun conversion =>
    [{ level := Log.Level.debug
       origin := conversionOrigin
       text := "Found " ++ Text.ofNat conversion.headings.length ++ " top-level headings" }]

/-!
# Building
-/

def fillTemplate (settings : Settings) (template : Text) (conversion : Conversion) : Text :=
  Template.fill template conversion.page settings.title conversion.toc

def buildOrigin : Text :=
  "syntaxdoc::builder::document"

variable {m : Type -> Type} [Monad m]

def convertNoted (converter : Converter) (source : Text) : Job m Conversion :=
  match converter.convert source with
  | Except.error text => Job.fail (BuildError.conversion text)
  | Except.ok conversion => do
      Job.record (converter.notes conversion)
      pure conversion

def build [FileStore m] (settings : Settings) (converter : Converter) : Job m Nat := do
  Job.note Log.Level.debug buildOrigin ("Reading source " ++ settings.source)
  let source <- Job.readText settings.source
  let conversion <- convertNoted converter source
  Job.note Log.Level.debug buildOrigin
    ("Converted " ++ Text.ofNat (Text.utf8Length source) ++ " bytes of Markdown into " ++
      Text.ofNat (Text.utf8Length conversion.page) ++ " bytes of HTML")
  Job.note Log.Level.debug buildOrigin ("Reading template " ++ settings.template)
  let template <- Job.readText settings.template
  let page := settings.fillTemplate template conversion
  Job.writeText settings.output page
  Job.note Log.Level.info buildOrigin
    ("Wrote " ++ settings.output ++ " (" ++ Text.ofNat (Text.utf8Length page) ++ " bytes)")
  pure (Text.utf8Length page)

end Settings
end Folio
