import Folio.Text.Quoted
import Folio.Text.Space
import Folio.Toc

/-!
# Settings

The settings of a build name its three files and its title, the extensions of
the Markdown reader, and the options of the table of contents.  Settings come
from their defaults, from a file and from the command line; only the table of
contents is checked, since every path and title is allowed.
-/

namespace Folio

inductive Extension where
  | fencedCode
  | codeHighlighting
  | toc
  | extra
  deriving DecidableEq

namespace Extension

def all : List Extension :=
  [fencedCode, codeHighlighting, toc, extra]

def name : Extension -> Text
  | fencedCode => "fenced_code"
  | codeHighlighting => "codehilite"
  | toc => "toc"
  | extra => "extra"

def diagnosticName : Extension -> Text
  | fencedCode => "FencedCode"
  | codeHighlighting => "CodeHilite"
  | toc => "Toc"
  | extra => "Extra"

def ofName? (s : Text) : Option Extension :=
  all.find? fun extension => extension.name == s

end Extension

structure Settings where
  source : Text
  template : Text
  output : Text
  title : Text
  extensions : List Extension
  toc : Toc.Options
  deriving DecidableEq

namespace Settings

def default : Settings where
  source := "syntax.md"
  template := "syntax_template.html"
  output := "syntax.html"
  title := "Exomars GridWorld language"
  extensions := [Extension.fencedCode, Extension.codeHighlighting, Extension.toc, Extension.extra]
  toc := Toc.Options.default

def has (settings : Settings) (extension : Extension) : Bool :=
  settings.extensions.contains extension

end Settings

/-!
# Overrides

Values given on the command line replace those of the settings.
-/

structure Overrides where
  source : Option Text
  template : Option Text
  output : Option Text
  title : Option Text
  deriving DecidableEq

namespace Overrides

def apply (overrides : Overrides) (settings : Settings) : Settings :=
  { settings with
    source := overrides.source.getD settings.source
    template := overrides.template.getD settings.template
    output := overrides.output.getD settings.output
    title := overrides.title.getD settings.title }

end Overrides

/-!
# Validation

Levels are those of headings, one to six, the least level is not above the
greatest, and the marker has a character that is no white space.
-/

inductive SettingsError where
  | levelOutOfRange (level : Nat)
  | levelsCross (minLevel maxLevel : Nat)
  | blankMarker
  deriving DecidableEq

namespace SettingsError

def message : SettingsError -> Text
  | levelOutOfRange level =>
      "TOC heading level must be between 1 and 6, got " ++ Text.ofNat level
  | levelsCross minLevel maxLevel =>
      "TOC min_level (" ++ Text.ofNat minLevel ++ ") is greater than max_level (" ++
        Text.ofNat maxLevel ++ ")"
  | blankMarker => "TOC marker must not be empty"

end SettingsError

namespace Settings

def isLevel (level : Nat) : Bool :=
  1 ≤ level && level ≤ 6

def fault? (settings : Settings) : Option SettingsError :=
  let options := settings.toc
  if !isLevel options.minLevel then
    some (SettingsError.levelOutOfRange options.minLevel)
  else if !isLevel options.maxLevel then
    some (SettingsError.levelOutOfRange options.maxLevel)
  else if options.maxLevel < options.minLevel then
    some (SettingsError.levelsCross options.minLevel options.maxLevel)
  else if Text.isBlank options.marker then
    some SettingsError.blankMarker
  else
    none

/-!
# Diagnostics
-/

def describe (settings : Settings) : Text :=
  let names := settings.extensions.map Extension.diagnosticName
  "BuildConfig \x7b source: " ++ Text.quoted settings.source ++
    ", template: " ++ Text.quoted settings.template ++
    ", output: " ++ Text.quoted settings.output ++
    ", title: " ++ Text.quoted settings.title ++
    ", extensions: [" ++ Text.join ", " names ++
    "], toc: TocOptions \x7b min_level: " ++ Text.ofNat settings.toc.minLevel ++
    ", max_level: " ++ Text.ofNat settings.toc.maxLevel ++
    ", marker: " ++ Text.quoted settings.toc.marker ++ " \x7d \x7d"

end Settings

end Folio
