import Folio.Proofs.Job
import Folio.Settings.Loading

/-!
# How settings are loaded

Loading goes through the stages reading, format, parsing and validation, and ends at
the first one that fails.  The overrides come in between, but what is validated and
what is parsed does not depend on them: they decide the four values that they name
and nothing else.
-/

namespace Folio

/-!
# Formats
-/

namespace SettingsFormat

inductive Names (path : Path) : SettingsFormat -> Prop where
  | toml {extension : Text} (hextension : path.extension? = some extension)
      (hlower : Text.lower extension = "toml".toList) : Names path SettingsFormat.toml
  | yml {extension : Text} (hextension : path.extension? = some extension)
      (hlower : Text.lower extension = "yml".toList) : Names path SettingsFormat.yaml
  | yaml {extension : Text} (hextension : path.extension? = some extension)
      (hlower : Text.lower extension = "yaml".toList) : Names path SettingsFormat.yaml

theorem ofPath?_eq_some_iff {path : Path} {format : SettingsFormat} :
    ofPath? path = some format ↔ Names path format := by
  constructor
  · intro h
    rcases Option.bind_eq_some_iff.mp h with ⟨extension, hextension, hformat⟩
    unfold ofExtension? at hformat
    dsimp only at hformat
    split at hformat
    · rename_i hlower
      injection hformat with hformat
      rw [← hformat]
      exact Names.toml hextension hlower
    · split at hformat
      · rename_i hlower
        injection hformat with hformat
        rw [← hformat]
        rcases hlower with hyml | hyaml
        · exact Names.yml hextension hyml
        · exact Names.yaml hextension hyaml
      · cases hformat
  · intro h
    cases h with
    | toml hextension hlower =>
        rw [ofPath?, hextension, Option.bind_some, ofExtension?, hlower]
        rfl
    | yml hextension hlower =>
        rw [ofPath?, hextension, Option.bind_some, ofExtension?, hlower]
        rfl
    | yaml hextension hlower =>
        rw [ofPath?, hextension, Option.bind_some, ofExtension?, hlower]
        rfl

theorem ofPath?_eq_none_iff {path : Path} :
    ofPath? path = none ↔ forall format, ¬ Names path format := by
  rw [Option.eq_none_iff_forall_ne_some]
  exact forall_congr' fun _ => not_congr ofPath?_eq_some_iff

end SettingsFormat

/-!
# Validation
-/

namespace Toc
namespace Options

structure Valid (options : Options) : Prop where
  one_le : 1 ≤ options.minLevel
  le : options.minLevel ≤ options.maxLevel
  le_six : options.maxLevel ≤ 6
  marker : exists c, c ∈ options.marker ∧ Text.isSpace c = false

/-- The first thing that is wrong with options: the least level, the greatest one,
their order, and last the marker. -/
inductive FirstFault (options : Options) : SettingsError -> Prop where
  | minLevel (h : options.minLevel < 1 ∨ 6 < options.minLevel) :
      FirstFault options (SettingsError.levelOutOfRange options.minLevel)
  | maxLevel (hmin : 1 ≤ options.minLevel ∧ options.minLevel ≤ 6)
      (h : options.maxLevel < 1 ∨ 6 < options.maxLevel) :
      FirstFault options (SettingsError.levelOutOfRange options.maxLevel)
  | order (hmin : 1 ≤ options.minLevel ∧ options.minLevel ≤ 6)
      (hmax : 1 ≤ options.maxLevel ∧ options.maxLevel ≤ 6)
      (h : options.maxLevel < options.minLevel) :
      FirstFault options (SettingsError.levelsCross options.minLevel options.maxLevel)
  | marker (hmin : 1 ≤ options.minLevel) (hle : options.minLevel ≤ options.maxLevel)
      (hmax : options.maxLevel ≤ 6) (h : forall c, c ∈ options.marker -> Text.isSpace c = true) :
      FirstFault options SettingsError.blankMarker

end Options
end Toc

theorem Text.isBlank_eq_false_iff {s : Text} :
    isBlank s = false ↔ exists c, c ∈ s ∧ isSpace c = false := by
  simp [isBlank]

namespace Settings

theorem isLevel_iff {level : Nat} : isLevel level = true ↔ 1 ≤ level ∧ level ≤ 6 := by
  simp [isLevel]

theorem fault?_cases (settings : Settings) :
    (exists cause, settings.fault? = some cause ∧ settings.toc.FirstFault cause) ∨
      (settings.fault? = none ∧ settings.toc.Valid) := by
  unfold fault?
  dsimp only
  by_cases hmin : isLevel settings.toc.minLevel = true
  · by_cases hmax : isLevel settings.toc.maxLevel = true
    · rw [if_neg (by simp [hmin]), if_neg (by simp [hmax])]
      have hmin := isLevel_iff.mp hmin
      have hmax := isLevel_iff.mp hmax
      by_cases horder : settings.toc.maxLevel < settings.toc.minLevel
      · rw [if_pos horder]
        exact Or.inl ⟨_, rfl, Toc.Options.FirstFault.order hmin hmax horder⟩
      · have hle := Nat.le_of_not_lt horder
        rw [if_neg horder]
        cases hblank : Text.isBlank settings.toc.marker with
        | true =>
            have hspaces := List.all_eq_true.mp hblank
            exact Or.inl ⟨_, rfl, Toc.Options.FirstFault.marker hmin.1 hle hmax.2 hspaces⟩
        | false =>
            exact Or.inr ⟨rfl, hmin.1, hle, hmax.2, Text.isBlank_eq_false_iff.mp hblank⟩
    · rw [if_neg (by simp [hmin]), if_pos (by simp [hmax])]
      have hmin := isLevel_iff.mp hmin
      rw [isLevel_iff] at hmax
      exact Or.inl ⟨_, rfl, Toc.Options.FirstFault.maxLevel hmin (by omega)⟩
  · rw [if_pos (by simp [hmin])]
    rw [isLevel_iff] at hmin
    exact Or.inl ⟨_, rfl, Toc.Options.FirstFault.minLevel (by omega)⟩

end Settings

theorem Toc.Options.FirstFault.not_valid {options : Toc.Options} {cause : SettingsError}
    (h : options.FirstFault cause) : ¬ options.Valid := by
  rintro ⟨hone, hle, hsix, c, hc, hspace⟩
  cases h with
  | minLevel h =>
      omega
  | maxLevel _ h =>
      omega
  | order _ _ h =>
      omega
  | marker _ _ _ h =>
      rw [h c hc] at hspace
      cases hspace

theorem Toc.Options.FirstFault.unique {options : Toc.Options} {cause other : SettingsError}
    (h : options.FirstFault cause) (hother : options.FirstFault other) : cause = other := by
  cases h with
  | minLevel h =>
      cases hother with
      | minLevel _ => rfl
      | maxLevel _ _ | order _ _ _ | marker _ _ _ _ => omega
  | maxLevel _ h =>
      cases hother with
      | maxLevel _ _ => rfl
      | minLevel _ | order _ _ _ | marker _ _ _ _ => omega
  | order _ _ h =>
      cases hother with
      | order _ _ _ => rfl
      | minLevel _ | maxLevel _ _ | marker _ _ _ _ => omega
  | marker _ _ _ _ =>
      cases hother with
      | marker _ _ _ _ => rfl
      | minLevel _ | maxLevel _ _ | order _ _ _ => omega

namespace Settings

theorem fault?_eq_some_iff {settings : Settings} {cause : SettingsError} :
    settings.fault? = some cause ↔ settings.toc.FirstFault cause := by
  rcases fault?_cases settings with ⟨found, hfound, hfault⟩ | ⟨hnone, hvalid⟩
  · rw [hfound, Option.some.injEq]
    constructor
    · rintro rfl
      exact hfault
    · exact hfault.unique
  · rw [hnone]
    constructor
    · intro h
      cases h
    · intro h
      exact absurd hvalid h.not_valid

theorem fault?_eq_none_iff {settings : Settings} :
    settings.fault? = none ↔ settings.toc.Valid := by
  rcases fault?_cases settings with ⟨found, hfound, hfault⟩ | ⟨hnone, hvalid⟩
  · rw [hfound]
    constructor
    · intro h
      cases h
    · intro h
      exact absurd h hfault.not_valid
  · exact ⟨fun _ => hvalid, fun _ => hnone⟩

/-!
# Stages
-/

section Stages

variable (files : Files)

/-- The settings that the overrides are put over: the defaults, or those of a file. -/
inductive Base : Option Text -> Settings -> Prop where
  | defaults : Base none default
  | parsed {path content : Text} {format : SettingsFormat} {settings : Settings}
      (hread : files.readText (Path.ofText path) = Except.ok content)
      (hformat : SettingsFormat.Names (Path.ofText path) format)
      (hparse : format.settings content = Except.ok settings) :
      Base (some path) settings

/-- The error of the first stage that fails. -/
inductive LoadFails : Option Text -> BuildError -> Prop where
  | unread {path : Text} {cause : FileError}
      (hread : files.readText (Path.ofText path) = Except.error cause) :
      LoadFails (some path) (BuildError.reading path cause)
  | unsupported {path content : Text}
      (hread : files.readText (Path.ofText path) = Except.ok content)
      (hformat : forall format, ¬ SettingsFormat.Names (Path.ofText path) format) :
      LoadFails (some path) (LoadingError.unsupportedFormat path).toBuildError
  | malformed {path content report : Text} {format : SettingsFormat}
      (hread : files.readText (Path.ofText path) = Except.ok content)
      (hformat : SettingsFormat.Names (Path.ofText path) format)
      (hparse : format.settings content = Except.error report) :
      LoadFails (some path) (LoadingError.malformed format path report).toBuildError
  | invalid {file : Option Text} {base : Settings} {cause : SettingsError}
      (hbase : Base files file base) (hfault : base.toc.FirstFault cause) :
      LoadFails file (LoadingError.invalid cause).toBuildError

end Stages

section Runs

variable {files : Files} {file : Option Text}

theorem ofContent_of_names {path : Text} {format : SettingsFormat}
    (h : SettingsFormat.Names (Path.ofText path) format) (content : Text) :
    ofContent path content =
      (format.settings content).mapError fun report =>
        LoadingError.malformed format path report := by
  rw [ofContent, SettingsFormat.ofPath?_eq_some_iff.mpr h]

theorem ends_loadBase {base : Settings} (h : Base files file base) :
    Job.Ends (loadBase file) files (Except.ok base) files := by
  cases h with
  | defaults =>
      exact (Job.ends_note _ _ _ files).bind (Job.ends_pure default files)
  | parsed hread hformat hparse =>
      apply (Job.ends_note _ _ _ files).bind
      apply (Job.ends_readText hread).bind
      rw [ofContent_of_names hformat, hparse]
      exact Job.ends_pure _ files

theorem fault?_apply (overrides : Overrides) (settings : Settings) :
    (overrides.apply settings).fault? = settings.fault? := rfl

theorem validated_apply_of_valid {base : Settings} (h : base.toc.Valid) (overrides : Overrides) :
    validated (overrides.apply base) = Except.ok (overrides.apply base) := by
  rw [validated, fault?_apply, fault?_eq_none_iff.mpr h]

theorem validated_apply_of_fault {base : Settings} {cause : SettingsError}
    (h : base.toc.FirstFault cause) (overrides : Overrides) :
    validated (overrides.apply base) = Except.error (LoadingError.invalid cause) := by
  rw [validated, fault?_apply, fault?_eq_some_iff.mpr h]

theorem LoadFails.ends {e : BuildError} (h : LoadFails files file e) (overrides : Overrides) :
    Job.Ends (load file overrides) files (Except.error e) files := by
  cases h with
  | unread hread =>
      apply Job.Ends.bind_error
      apply (Job.ends_note _ _ _ files).bind
      exact (Job.ends_readText_error hread).bind_error
  | unsupported hread hformat =>
      apply Job.Ends.bind_error
      apply (Job.ends_note _ _ _ files).bind
      apply (Job.ends_readText hread).bind
      rw [ofContent, SettingsFormat.ofPath?_eq_none_iff.mpr hformat]
      exact Job.ends_fail _ files
  | malformed hread hformat hparse =>
      apply Job.Ends.bind_error
      apply (Job.ends_note _ _ _ files).bind
      apply (Job.ends_readText hread).bind
      rw [ofContent_of_names hformat, hparse]
      exact Job.ends_fail _ files
  | invalid hbase hfault =>
      apply (ends_loadBase hbase).bind
      dsimp only
      rw [validated_apply_of_fault hfault]
      exact Job.ends_fail _ files

theorem ends_load {base : Settings} (hbase : Base files file base) (hvalid : base.toc.Valid)
    (overrides : Overrides) :
    Job.Ends (load file overrides) files (Except.ok (overrides.apply base)) files := by
  apply (ends_loadBase hbase).bind
  dsimp only
  rw [validated_apply_of_valid hvalid]
  apply (Job.ends_note _ _ _ files).bind
  apply (Job.ends_note _ _ _ files).bind
  exact Job.ends_pure _ files

theorem exists_base_or_fails (files : Files) (file : Option Text) :
    (exists base, Base files file base ∧ base.toc.Valid) ∨ exists e, LoadFails files file e := by
  have hvalidation : forall base, Base files file base ->
      (exists base, Base files file base ∧ base.toc.Valid) ∨ exists e, LoadFails files file e := by
    intro base hbase
    rcases fault?_cases base with ⟨cause, _, hfault⟩ | ⟨_, hvalid⟩
    · exact Or.inr ⟨_, LoadFails.invalid hbase hfault⟩
    · exact Or.inl ⟨base, hbase, hvalid⟩
  cases file with
  | none =>
      exact hvalidation default Base.defaults
  | some path =>
      cases hread : files.readText (Path.ofText path) with
      | error cause =>
          exact Or.inr ⟨_, LoadFails.unread hread⟩
      | ok content =>
          cases hformat : SettingsFormat.ofPath? (Path.ofText path) with
          | none =>
              have hnames := SettingsFormat.ofPath?_eq_none_iff.mp hformat
              exact Or.inr ⟨_, LoadFails.unsupported hread hnames⟩
          | some format =>
              have hnames := SettingsFormat.ofPath?_eq_some_iff.mp hformat
              cases hparse : format.settings content with
              | error report =>
                  exact Or.inr ⟨_, LoadFails.malformed hread hnames hparse⟩
              | ok settings =>
                  exact hvalidation settings (Base.parsed hread hnames hparse)

theorem result_load_eq_ok_iff {overrides : Overrides} {settings : Settings} :
    (Job.outcome (load file overrides) files).result = Except.ok settings ↔
      exists base, Base files file base ∧ base.toc.Valid ∧ settings = overrides.apply base := by
  constructor
  · intro h
    rcases exists_base_or_fails files file with ⟨base, hbase, hvalid⟩ | ⟨e, hfails⟩
    · rw [(ends_load hbase hvalid overrides).outcome.1] at h
      injection h with h
      exact ⟨base, hbase, hvalid, h.symm⟩
    · rw [(hfails.ends overrides).outcome.1] at h
      cases h
  · rintro ⟨base, hbase, hvalid, rfl⟩
    exact (ends_load hbase hvalid overrides).outcome.1

theorem result_load_eq_error_iff {overrides : Overrides} {e : BuildError} :
    (Job.outcome (load file overrides) files).result = Except.error e ↔
      LoadFails files file e := by
  constructor
  · intro h
    rcases exists_base_or_fails files file with ⟨base, hbase, hvalid⟩ | ⟨e', hfails⟩
    · rw [(ends_load hbase hvalid overrides).outcome.1] at h
      cases h
    · rw [(hfails.ends overrides).outcome.1] at h
      injection h with h
      rw [← h]
      exact hfails
  · intro hfails
    exact (hfails.ends overrides).outcome.1

theorem outcome_load_of_overrides (file : Option Text) (overrides others : Overrides)
    (files : Files) :
    (Job.outcome (load file overrides) files).files = files ∧
      (Job.outcome (load file others) files).result.map
          (fun settings => (settings.extensions, settings.toc)) =
        (Job.outcome (load file overrides) files).result.map
          fun settings => (settings.extensions, settings.toc) := by
  rcases exists_base_or_fails files file with ⟨base, hbase, hvalid⟩ | ⟨e, hfails⟩
  · rcases (ends_load hbase hvalid overrides).outcome with ⟨hresult, hfiles⟩
    rw [hresult, (ends_load hbase hvalid others).outcome.1]
    exact ⟨hfiles, rfl⟩
  · rcases (hfails.ends overrides).outcome with ⟨hresult, hfiles⟩
    rw [hresult, (hfails.ends others).outcome.1]
    exact ⟨hfiles, rfl⟩

/-- Loading gives settings exactly when there are valid ones to start from, and then
those with the overrides in place of what they name.  Otherwise the error is that of
the first stage that fails.  No file changes, and with other overrides the error, the
extensions and the options of the table of contents are the same. -/
theorem load_iff (file : Option Text) (overrides : Overrides) (files : Files) :
    let outcome := Job.outcome (load file overrides) files
    (forall settings, outcome.result = Except.ok settings ↔
        exists base, Base files file base ∧ base.toc.Valid ∧
          settings =
            { source := overrides.source.getD base.source
              template := overrides.template.getD base.template
              output := overrides.output.getD base.output
              title := overrides.title.getD base.title
              extensions := base.extensions
              toc := base.toc }) ∧
      (forall e, outcome.result = Except.error e ↔ LoadFails files file e) ∧
      outcome.files = files ∧
      forall others : Overrides,
        (Job.outcome (load file others) files).result.map
            (fun settings => (settings.extensions, settings.toc)) =
          outcome.result.map fun settings => (settings.extensions, settings.toc) := by
  intro outcome
  have hothers := fun others => outcome_load_of_overrides file overrides others files
  refine ⟨?_, ?_, (hothers overrides).1, fun others => (hothers others).2⟩
  · intro settings
    exact result_load_eq_ok_iff
  · intro e
    exact result_load_eq_error_iff

/-- Files without a name before the point have no extension, and only the last extension
counts, in letters of either case. -/
example :
    SettingsFormat.ofPath? (Path.ofText ".toml") = none ∧
      SettingsFormat.ofPath? (Path.ofText "pages/a.toml.YML/") = some SettingsFormat.yaml := by
  decide +kernel

end Runs

end Settings
end Folio
