import Folio.Job
import Folio.Text.Case
import Folio.Toml
import Folio.Yaml

/-!
# Loading settings

Settings are those of a file, or the defaults, with the overrides put over them.
The extension of the file's name tells its format.
-/

namespace Folio

/-!
# Formats of settings files
-/

inductive SettingsFormat where
  | toml
  | yaml
  deriving DecidableEq

namespace SettingsFormat

def name : SettingsFormat -> Text
  | toml => "TOML"
  | yaml => "YAML"

def ofExtension? (extension : Text) : Option SettingsFormat :=
  let known := Text.lower extension
  if known = ("toml" : Text) then
    some toml
  else if known = ("yml" : Text) ∨ known = ("yaml" : Text) then
    some yaml
  else
    none

def ofPath? (path : Path) : Option SettingsFormat :=
  path.extension?.bind ofExtension?

def settings : SettingsFormat -> Text -> Except Text Settings
  | toml => Toml.settings
  | yaml => Yaml.settings

end SettingsFormat

/-!
# Failures
-/

inductive LoadingError where
  | unsupportedFormat (path : Text)
  | malformed (format : SettingsFormat) (path report : Text)
  | invalid (cause : SettingsError)
  deriving DecidableEq

namespace LoadingError

def message : LoadingError -> Text
  | unsupportedFormat path => "Unsupported configuration file format: " ++ path
  | malformed format path report =>
      "Failed to parse " ++ format.name ++ " configuration (" ++ path ++ "): " ++ report
  | invalid cause => cause.message

def toBuildError (e : LoadingError) : BuildError :=
  BuildError.settings e.message

end LoadingError

namespace Settings

def ofContent (path content : Text) : Except LoadingError Settings :=
  match SettingsFormat.ofPath? (Path.ofText path) with
  | none => Except.error (LoadingError.unsupportedFormat path)
  | some format =>
      (format.settings content).mapError fun report =>
        LoadingError.malformed format path report

def validated (settings : Settings) : Except LoadingError Settings :=
  match settings.fault? with
  | some cause => Except.error (LoadingError.invalid cause)
  | none => Except.ok settings

/-!
# Loading
-/

def loadingOrigin : Text :=
  "syntaxdoc::config::loader"

def validationOrigin : Text :=
  "syntaxdoc::config::validation"

variable {m : Type -> Type} [Monad m] [FileStore m]

def loadBase (file : Option Text) : Job m Settings :=
  match file with
  | none => do
      Job.note Log.Level.debug loadingOrigin "No configuration file given, using defaults"
      pure Settings.default
  | some path => do
      Job.note Log.Level.debug loadingOrigin ("Loading configuration from " ++ path)
      let content <- Job.readText path
      match ofContent path content with
      | Except.ok settings => pure settings
      | Except.error e => Job.fail e.toBuildError

def load (file : Option Text) (overrides : Overrides) : Job m Settings := do
  let base <- loadBase file
  let settings := overrides.apply base
  match validated settings with
  | Except.error e => Job.fail e.toBuildError
  | Except.ok settings =>
      Job.note Log.Level.debug validationOrigin
        ("Building " ++ settings.output ++ " from " ++ settings.source ++
          " with template " ++ settings.template)
      Job.note Log.Level.debug loadingOrigin ("Configuration loaded: " ++ settings.describe)
      pure settings

end Settings
end Folio
