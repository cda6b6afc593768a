import Folio.Settings
import Folio.Value.Decoding

/-!
# Decoding settings

Settings are decoded over their defaults: a document that says nothing about a
field leaves the default in place.
-/

namespace Folio

open Value (RecordField)

/-!
# Options of the table of contents

While fields are read, a field that was not mentioned has no value.
-/

namespace Toc

structure PartialOptions where
  minLevel : Option Nat
  maxLevel : Option Nat
  marker : Option Text

namespace PartialOptions

def empty : PartialOptions where
  minLevel := none
  maxLevel := none
  marker := none

def fields : List (RecordField PartialOptions) :=
  [{ name := "min_level"
     isSet := fun options => options.minLevel.isSome
     decode := fun options v => v.byte.map fun n => { options with minLevel := some n } },
   { name := "max_level"
     isSet := fun options => options.maxLevel.isSome
     decode := fun options v => v.byte.map fun n => { options with maxLevel := some n } },
   { name := "marker"
     isSet := fun options => options.marker.isSome
     decode := fun options v => v.string.map fun s => { options with marker := some s } }]

def complete (options : PartialOptions) : Options where
  minLevel := options.minLevel.getD Options.default.minLevel
  maxLevel := options.maxLevel.getD Options.default.maxLevel
  marker := options.marker.getD Options.default.marker

end PartialOptions

def Options.decode (format : Format) (v : Value) : Decoded Options :=
  (v.fill format "struct TocOptions" PartialOptions.fields PartialOptions.empty).map
    PartialOptions.complete

end Toc

/-!
# Settings
-/

def Extension.decode (format : Format) (v : Value) : Decoded Extension :=
  v.variant format Extension.ofName? (Extension.all.map Extension.name)

structure PartialSettings where
  source : Option Text
  template : Option Text
  output : Option Text
  title : Option Text
  extensions : Option (List Extension)
  toc : Option Toc.Options

namespace PartialSettings

def empty : PartialSettings where
  source := none
  template := none
  output := none
  title := none
  extensions := none
  toc := none

def fields (format : Format) : List (RecordField PartialSettings) :=
  [{ name := "source"
     isSet := fun settings => settings.source.isSome
     decode := fun settings v => v.path.map fun s => { settings with source := some s } },
   { name := "template"
     isSet := fun settings => settings.template.isSome
     decode := fun settings v => v.path.map fun s => { settings with template := some s } },
   { name := "output"
     isSet := fun settings => settings.output.isSome
     decode := fun settings v => v.path.map fun s => { settings with output := some s } },
   { name := "title"
     isSet := fun settings => settings.title.isSome
     decode := fun settings v => v.string.map fun s => { settings with title := some s } },
   { name := "extensions"
     isSet := fun settings => settings.extensions.isSome
     decode := fun settings v =>
       (v.elements (Extension.decode format)).map fun extensions =>
         { settings with extensions := some extensions } },
   { name := "toc"
     isSet := fun settings => settings.toc.isSome
     decode := fun settings v =>
       (Toc.Options.decode format v).map fun options => { settings with toc := some options } }]

def complete (settings : PartialSettings) : Settings where
  source := settings.source.getD Settings.default.source
  template := settings.template.getD Settings.default.template
  output := settings.output.getD Settings.default.output
  title := settings.title.getD Settings.default.title
  extensions := settings.extensions.getD Settings.default.extensions
  toc := settings.toc.getD Settings.default.toc

end PartialSettings

def Settings.decode (format : Format) (v : Value) : Decoded Settings :=
  (v.fill format "struct BuildConfig" (PartialSettings.fields format) PartialSettings.empty).map
    PartialSettings.complete

end Folio
