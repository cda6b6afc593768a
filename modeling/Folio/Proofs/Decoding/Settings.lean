import Folio.Proofs.Decoding.Record
import Folio.Settings.Decoding

/-!
# Settings that are told in part

A document may tell any of the settings, and of the options of the table of contents any
part.  What it tells is taken as it says, and what it leaves out is as it is by default,
whatever else stands in the document and in whatever order.  A document that tells
everything gives all settings back.
-/

namespace Folio

open Value (Tells Fills whenTold whenTold_of_not_mem getD_whenTold)

/-!
# Options of the table of contents
-/

namespace Toc
namespace Options

inductive Field where
  | minLevel
  | maxLevel
  | marker
  deriving DecidableEq

def Field.name : Field -> Text
  | minLevel => "min_level"
  | maxLevel => "max_level"
  | marker => "marker"

def Shows (format : Format) (options : Options) : Field -> Value -> Prop
  | Field.minLevel, v => v.IsNumber format options.minLevel
  | Field.maxLevel, v => v.IsNumber format options.maxLevel
  | Field.marker, v => v.IsText format options.marker

def written (options : Options) : Field -> Value
  | Field.minLevel => Value.scalar (Scalar.int options.minLevel)
  | Field.maxLevel => Value.scalar (Scalar.int options.maxLevel)
  | Field.marker => Value.text options.marker

theorem shows_written (format : Format) (options : Options) (f : Field) :
    options.Shows format f (options.written f) := by
  cases f with
  | minLevel | maxLevel =>
      exact Value.IsNumber.scalar
  | marker =>
      exact Value.IsText.scalar

def kept (options : Options) (told : List Field) : Options where
  minLevel := if Field.minLevel ∈ told then options.minLevel else default.minLevel
  maxLevel := if Field.maxLevel ∈ told then options.maxLevel else default.maxLevel
  marker := if Field.marker ∈ told then options.marker else default.marker

theorem kept_of_forall_mem (options : Options) {told : List Field} (h : forall f, f ∈ told) :
    options.kept told = options := by
  simp only [kept, h, if_true]

structure HasByteLevels (options : Options) : Prop where
  minLevel : options.minLevel < 256
  maxLevel : options.maxLevel < 256

end Options

namespace PartialOptions

open Options (Field)

def ofFields (options : Options) (told : List Field) : PartialOptions where
  minLevel := whenTold told Field.minLevel options.minLevel
  maxLevel := whenTold told Field.maxLevel options.maxLevel
  marker := whenTold told Field.marker options.marker

theorem complete_ofFields (options : Options) (told : List Field) :
    (ofFields options told).complete = options.kept told := by
  simp only [complete, ofFields, Options.kept, getD_whenTold]

theorem fills_fields {format : Format} {options : Options} (h : options.HasByteLevels) :
    Fills Field.name (options.Shows format) fields (ofFields options) where
  named := by
    intro field hfield
    simp only [fields, List.mem_cons, List.not_mem_nil, or_false] at hfield
    rcases hfield with rfl | rfl | rfl
    · exact ⟨Field.minLevel, rfl⟩
    · exact ⟨Field.maxLevel, rfl⟩
    · exact ⟨Field.marker, rfl⟩
  step := by
    intro f
    cases f with
    | minLevel =>
        refine ⟨_, rfl, ?_⟩
        intro filled v hnew hshows
        have hv : v.byte = Except.ok options.minLevel := hshows.byte h.minLevel
        simp [ofFields, hv, Except.map, whenTold_of_not_mem hnew]
    | maxLevel =>
        refine ⟨_, rfl, ?_⟩
        intro filled v hnew hshows
        have hv : v.byte = Except.ok options.maxLevel := hshows.byte h.maxLevel
        simp [ofFields, hv, Except.map, whenTold_of_not_mem hnew]
    | marker =>
        refine ⟨_, rfl, ?_⟩
        intro filled v hnew hshows
        have hv : v.string = Except.ok options.marker := hshows.toText _
        simp [ofFields, hv, Except.map, whenTold_of_not_mem hnew]

end PartialOptions

theorem Options.decode_table {format : Format} {options : Options} (h : options.HasByteLevels)
    {told : List Options.Field} {entries : List (Value × Value)}
    (hentries : Tells format Options.Field.name (options.Shows format) told entries) :
    Options.decode format (Value.table entries) = Except.ok (options.kept told) := by
  have hempty : PartialOptions.empty = PartialOptions.ofFields options [] := rfl
  rw [decode, hempty, Value.fill_of_tells (PartialOptions.fills_fields h) hentries,
    ← PartialOptions.complete_ofFields]
  rfl

end Toc

/-!
# Settings
-/

theorem Extension.ofName?_name (extension : Extension) :
    Extension.ofName? extension.name = some extension := by
  cases extension <;> rfl

theorem elements_of_names {format : Format} {extensions : List Extension} {values : List Value}
    (h : List.Forall₂ (fun extension v => v.IsText format (Extension.name extension))
      extensions values) :
    (Value.list values).elements (Extension.decode format) = Except.ok extensions := by
  apply Value.elementsFrom_of_forall₂
  exact h.imp fun extension v hname => hname.variant extension.ofName?_name _

namespace Settings

inductive Field where
  | source
  | template
  | output
  | title
  | extensions
  | toc
  deriving DecidableEq

def Field.name : Field -> Text
  | source => "source"
  | template => "template"
  | output => "output"
  | title => "title"
  | extensions => "extensions"
  | toc => "toc"

/-- Whether a value shows what the settings have in a field.  Of the options of the table of
contents it tells those in `part`. -/
def Shows (format : Format) (part : List Toc.Options.Field) (settings : Settings) :
    Field -> Value -> Prop
  | Field.source, v => v.IsText format settings.source
  | Field.template, v => v.IsText format settings.template
  | Field.output, v => v.IsText format settings.output
  | Field.title, v => v.IsText format settings.title
  | Field.extensions, v =>
      exists values, v = Value.list values ∧
        List.Forall₂ (fun extension v => v.IsText format (Extension.name extension))
          settings.extensions values
  | Field.toc, v =>
      exists entries, v = Value.table entries ∧
        Tells format Toc.Options.Field.name (settings.toc.Shows format) part entries

def written (part : List Toc.Options.Field) (settings : Settings) : Field -> Value
  | Field.source => Value.text settings.source
  | Field.template => Value.text settings.template
  | Field.output => Value.text settings.output
  | Field.title => Value.text settings.title
  | Field.extensions =>
      Value.list (settings.extensions.map fun extension => Value.text extension.name)
  | Field.toc => Value.table (Value.entriesOf Toc.Options.Field.name settings.toc.written part)

theorem shows_written (format : Format) {part : List Toc.Options.Field} (h : part.Nodup)
    (settings : Settings) (f : Field) :
    settings.Shows format part f (settings.written part f) := by
  cases f with
  | source | template | output | title =>
      exact Value.IsText.scalar
  | extensions =>
      refine ⟨_, rfl, ?_⟩
      rw [List.forall₂_map_right_iff, List.forall₂_same]
      exact fun _ _ => Value.IsText.scalar
  | toc =>
      exact ⟨_, rfl, Value.tells_entriesOf (settings.toc.shows_written format) h⟩

/-- The settings in these fields, and the defaults in the others.  Of the options of the
table of contents those in `part` are kept, if the options are told at all. -/
def kept (settings : Settings) (told : List Field) (part : List Toc.Options.Field) :
    Settings where
  source := if Field.source ∈ told then settings.source else default.source
  template := if Field.template ∈ told then settings.template else default.template
  output := if Field.output ∈ told then settings.output else default.output
  title := if Field.title ∈ told then settings.title else default.title
  extensions := if Field.extensions ∈ told then settings.extensions else default.extensions
  toc := if Field.toc ∈ told then settings.toc.kept part else default.toc

theorem kept_of_forall_mem (settings : Settings) {told : List Field}
    {part : List Toc.Options.Field} (htold : forall f, f ∈ told) (hpart : forall f, f ∈ part) :
    settings.kept told part = settings := by
  simp only [kept, htold, if_true, Toc.Options.kept_of_forall_mem _ hpart]

end Settings

namespace PartialSettings

open Settings (Field)

def ofFields (part : List Toc.Options.Field) (settings : Settings) (told : List Field) :
    PartialSettings where
  source := whenTold told Field.source settings.source
  template := whenTold told Field.template settings.template
  output := whenTold told Field.output settings.output
  title := whenTold told Field.title settings.title
  extensions := whenTold told Field.extensions settings.extensions
  toc := whenTold told Field.toc (settings.toc.kept part)

theorem complete_ofFields (part : List Toc.Options.Field) (settings : Settings)
    (told : List Field) : (ofFields part settings told).complete = settings.kept told part := by
  simp only [complete, ofFields, Settings.kept, getD_whenTold]

theorem fills_fields {format : Format} {part : List Toc.Options.Field} {settings : Settings}
    (h : settings.toc.HasByteLevels) :
    Fills Field.name (settings.Shows format part) (fields format) (ofFields part settings) where
  named := by
    intro field hfield
    simp only [fields, List.mem_cons, List.not_mem_nil, or_false] at hfield
    rcases hfield with rfl | rfl | rfl | rfl | rfl | rfl
    · exact ⟨Field.source, rfl⟩
    · exact ⟨Field.template, rfl⟩
    · exact ⟨Field.output, rfl⟩
    · exact ⟨Field.title, rfl⟩
    · exact ⟨Field.extensions, rfl⟩
    · exact ⟨Field.toc, rfl⟩
  step := by
    intro f
    cases f with
    | source =>
        refine ⟨_, rfl, ?_⟩
        intro filled v hnew hshows
        have hv : v.path = Except.ok settings.source := hshows.toText _
        simp [ofFields, hv, Except.map, whenTold_of_not_mem hnew]
    | template =>
        refine ⟨_, rfl, ?_⟩
        intro filled v hnew hshows
        have hv : v.path = Except.ok settings.template := hshows.toText _
        simp [ofFields, hv, Except.map, whenTold_of_not_mem hnew]
    | output =>
        refine ⟨_, rfl, ?_⟩
        intro filled v hnew hshows
        have hv : v.path = Except.ok settings.output := hshows.toText _
        simp [ofFields, hv, Except.map, whenTold_of_not_mem hnew]
    | title =>
        refine ⟨_, rfl, ?_⟩
        intro filled v hnew hshows
        have hv : v.string = Except.ok settings.title := hshows.toText _
        simp [ofFields, hv, Except.map, whenTold_of_not_mem hnew]
    | extensions =>
        refine ⟨_, rfl, ?_⟩
        rintro filled _ hnew ⟨values, rfl, hvalues⟩
        have hv := elements_of_names hvalues
        simp [ofFields, hv, Except.map, whenTold_of_not_mem hnew]
    | toc =>
        refine ⟨_, rfl, ?_⟩
        rintro filled _ hnew ⟨entries, rfl, hentries⟩
        have hv := Toc.Options.decode_table h hentries
        simp [ofFields, hv, Except.map, whenTold_of_not_mem hnew]

end PartialSettings

namespace Settings

theorem decode_table {format : Format} {settings : Settings} (h : settings.toc.HasByteLevels)
    {told : List Field} {part : List Toc.Options.Field} {entries : List (Value × Value)}
    (hentries : Tells format Field.name (settings.Shows format part) told entries) :
    decode format (Value.table entries) = Except.ok (settings.kept told part) := by
  have hempty : PartialSettings.empty = PartialSettings.ofFields part settings [] := rfl
  rw [decode, hempty, Value.fill_of_tells (PartialSettings.fills_fields h) hentries,
    ← PartialSettings.complete_ofFields]
  rfl

/-- A table that tells fields of settings, and of their options any part, gives just these
over the defaults, in every format, in whatever order the table has them and whatever other
keys stand between them.  Every choice of fields, in every order, is told by the table in
which it is written, and a table that tells all fields gives the settings themselves. -/
theorem decode_partial_table {format : Format} {settings : Settings}
    (h : settings.toc.HasByteLevels) (told : List Field) (part : List Toc.Options.Field) :
    (forall entries, Tells format Field.name (settings.Shows format part) told entries ->
      decode format (Value.table entries) = Except.ok (settings.kept told part)) ∧
    (told.Nodup -> part.Nodup ->
      Tells format Field.name (settings.Shows format part) told
        (Value.entriesOf Field.name (settings.written part) told)) ∧
    ((forall f, f ∈ told) -> (forall f, f ∈ part) -> settings.kept told part = settings) := by
  refine ⟨?_, ?_, ?_⟩
  · intro entries hentries
    exact decode_table h hentries
  · intro htold hpart
    exact Value.tells_entriesOf (settings.shows_written format hpart) htold
  · intro htold hpart
    exact settings.kept_of_forall_mem htold hpart

/-- The values are plain, and keys that nothing knows stand in both tables. -/
theorem decode_partial_table_of_foreign_keys :
    let settings : Settings :=
      { default with title := "2", extensions := [], toc := ⟨2, 3, "<toc>"⟩ }
    let plain : Text -> Scalar -> Value := fun s meaning => Value.plain s (some meaning) meaning
    let key : Text -> Value := fun s => plain s (Scalar.text s)
    let options : List (Value × Value) :=
      [(plain "7" (Scalar.int 7), Value.list []), (key "max_level", plain "3" (Scalar.int 3))]
    let entries : List (Value × Value) :=
      [(key "toc", Value.table options), (key "colour", plain "true" (Scalar.bool true)),
        (key "title", plain "2" (Scalar.int 2))]
    let read : Settings := { default with title := "2", toc := ⟨1, 3, "[TOC]"⟩ }
    let all : List Field :=
      [Field.toc, Field.title, Field.extensions, Field.output, Field.template, Field.source]
    let part : List Toc.Options.Field :=
      [Toc.Options.Field.marker, Toc.Options.Field.maxLevel, Toc.Options.Field.minLevel]
    settings.toc.HasByteLevels ∧
      Tells Format.yaml Field.name (settings.Shows Format.yaml [Toc.Options.Field.maxLevel])
        [Field.toc, Field.title] entries ∧
      decode Format.yaml (Value.table entries) = Except.ok read ∧
      (all.Nodup ∧ part.Nodup ∧ (forall f, f ∈ all) ∧ forall f, f ∈ part) ∧
      decode Format.toml (Value.table (Value.entriesOf Field.name (settings.written part) all)) =
        Except.ok settings := by
  intro settings plain key options entries read all part
  have hlevels : settings.toc.HasByteLevels := ⟨by decide, by decide⟩
  have hoptions : Tells Format.yaml Toc.Options.Field.name (settings.toc.Shows Format.yaml)
      [Toc.Options.Field.maxLevel] options := by
    refine Tells.foreign (Value.IsText.plain rfl _ _) ?_ rfl
      (Tells.field (Value.IsText.plain rfl _ _) ?_ (by decide) Tells.nil)
    · intro f
      cases f <;> decide
    · exact Value.IsNumber.plain rfl _ (by decide)
  have hentries : Tells Format.yaml Field.name
      (settings.Shows Format.yaml [Toc.Options.Field.maxLevel]) [Field.toc, Field.title] entries := by
    refine Tells.field (Value.IsText.plain rfl _ _) ⟨options, rfl, hoptions⟩ (by decide)
      (Tells.foreign (Value.IsText.plain rfl _ _) ?_ rfl
        (Tells.field (Value.IsText.plain rfl _ _) (Value.IsText.plain rfl _ _) (by decide)
          Tells.nil))
    intro f
    cases f <;> decide
  have hall : forall f, f ∈ all := by
    intro f
    cases f <;> decide
  have hpart : forall f, f ∈ part := by
    intro f
    cases f <;> decide
  have hdistinct : all.Nodup ∧ part.Nodup := by decide
  have hread := (decode_partial_table hlevels [Field.toc, Field.title]
    [Toc.Options.Field.maxLevel]).1 entries hentries
  rcases decode_partial_table hlevels all part with ⟨hdecode, hwritten, hkept⟩
  have hwhole := hdecode _ (hwritten hdistinct.1 hdistinct.2)
  rw [hkept hall hpart] at hwhole
  exact ⟨hlevels, hentries, hread, ⟨hdistinct.1, hdistinct.2, hall, hpart⟩, hwhole⟩

end Settings
end Folio
