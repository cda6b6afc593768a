import Folio.Build
import Folio.Proofs.Files.Writing
import Folio.Proofs.Job

/-!
# How a build ends

A build goes through five steps and ends at the first one that fails.  Up to the
last two of them nothing is written, and those write no file before all else has
succeeded.
-/

namespace Folio

namespace Settings

/-!
# The steps of a build
-/

section Steps

variable (settings : Settings) (converter : Converter) (files : Files)

/-- What the steps before writing give: the source is read and converted, and the
template is read. -/
structure Prepares (conversion : Conversion) (template : Text) : Prop where
  converted : exists source,
    files.readText (Path.ofText settings.source) = Except.ok source ∧
      converter.convert source = Except.ok conversion
  template : files.readText (Path.ofText settings.template) = Except.ok template

/-- The ways in which a build ends, each with its result and the files afterwards. -/
inductive Builds : Except BuildError Nat -> Files -> Prop where
  | sourceUnread {cause : FileError}
      (hsource : files.readText (Path.ofText settings.source) = Except.error cause) :
      Builds (Except.error (BuildError.reading settings.source cause)) files
  | unconverted {source text : Text}
      (hsource : files.readText (Path.ofText settings.source) = Except.ok source)
      (hconvert : converter.convert source = Except.error text) :
      Builds (Except.error (BuildError.conversion text)) files
  | templateUnread {source : Text} {conversion : Conversion} {cause : FileError}
      (hsource : files.readText (Path.ofText settings.source) = Except.ok source)
      (hconvert : converter.convert source = Except.ok conversion)
      (htemplate : files.readText (Path.ofText settings.template) = Except.error cause) :
      Builds (Except.error (BuildError.reading settings.template cause)) files
  | parentsUnmade {conversion : Conversion} {template : Text} {cause : FileError} {files' : Files}
      (hprepares : settings.Prepares converter files conversion template)
      (hparents : files.ensureParents (Path.ofText settings.output) =
        (Except.error cause, files')) :
      Builds (Except.error (BuildError.writing settings.output cause)) files'
  | unwritten {conversion : Conversion} {template : Text} {cause : FileError} {files' : Files}
      (hprepares : settings.Prepares converter files conversion template)
      (hparents : files.ensureParents (Path.ofText settings.output) = (Except.ok (), files'))
      (hwrite : files'.replaceFile (Path.ofText settings.output)
        (Text.bytes (settings.fillTemplate template conversion)) = Except.error cause) :
      Builds (Except.error (BuildError.writing settings.output cause)) files'
  | written {conversion : Conversion} {template : Text} {files' files'' : Files}
      (hprepares : settings.Prepares converter files conversion template)
      (hparents : files.ensureParents (Path.ofText settings.output) = (Except.ok (), files'))
      (hwrite : files'.replaceFile (Path.ofText settings.output)
        (Text.bytes (settings.fillTemplate template conversion)) = Except.ok files'') :
      Builds (Except.ok (Text.utf8Length (settings.fillTemplate template conversion))) files''

end Steps

section Runs

variable {settings : Settings} {converter : Converter} {files : Files}

theorem ends_convertNoted {source : Text} {conversion : Conversion} (files : Files)
    (h : converter.convert source = Except.ok conversion) :
    Job.Ends (convertNoted converter source) files (Except.ok conversion) files := by
  rw [convertNoted, h]
  exact (Job.ends_record _ files).bind (Job.ends_pure conversion files)

theorem ends_convertNoted_error {source text : Text} (files : Files)
    (h : converter.convert source = Except.error text) :
    Job.Ends (convertNoted converter source) files (Except.error (BuildError.conversion text))
      files := by
  rw [convertNoted, h]
  exact Job.ends_fail _ files

theorem exists_builds (settings : Settings) (converter : Converter) (files : Files) :
    exists result files', settings.Builds converter files result files' := by
  cases hsource : files.readText (Path.ofText settings.source) with
  | error cause =>
      exact ⟨_, _, Builds.sourceUnread hsource⟩
  | ok source =>
      cases hconvert : converter.convert source with
      | error text =>
          exact ⟨_, _, Builds.unconverted hsource hconvert⟩
      | ok conversion =>
          cases htemplate : files.readText (Path.ofText settings.template) with
          | error cause =>
              exact ⟨_, _, Builds.templateUnread hsource hconvert htemplate⟩
          | ok template =>
              have hprepares : settings.Prepares converter files conversion template :=
                ⟨⟨source, hsource, hconvert⟩, htemplate⟩
              rcases hparents : files.ensureParents (Path.ofText settings.output) with
                ⟨cause | _, files'⟩
              · exact ⟨_, _, Builds.parentsUnmade hprepares hparents⟩
              · cases hwrite : files'.replaceFile (Path.ofText settings.output)
                  (Text.bytes (settings.fillTemplate template conversion)) with
                | error cause =>
                    exact ⟨_, _, Builds.unwritten hprepares hparents hwrite⟩
                | ok files'' =>
                    exact ⟨_, _, Builds.written hprepares hparents hwrite⟩

theorem Prepares.ends {conversion : Conversion} {template : Text}
    (h : settings.Prepares converter files conversion template)
    {result : Except BuildError Nat} {files' : Files}
    (hwrite : Job.Ends (do
        let page := settings.fillTemplate template conversion
        Job.writeText settings.output page
        Job.note Log.Level.info buildOrigin
          ("Wrote " ++ settings.output ++ " (" ++ Text.ofNat (Text.utf8Length page) ++ " bytes)")
        pure (Text.utf8Length page)) files result files') :
    Job.Ends (settings.build converter) files result files' := by
  rcases h.converted with ⟨source, hsource, hconvert⟩
  apply (Job.ends_note _ _ _ files).bind
  apply (Job.ends_readText hsource).bind
  apply (ends_convertNoted files hconvert).bind
  apply (Job.ends_note _ _ _ files).bind
  apply (Job.ends_note _ _ _ files).bind
  apply (Job.ends_readText h.template).bind
  exact hwrite

theorem Builds.ends {result : Except BuildError Nat} {files' : Files}
    (h : settings.Builds converter files result files') :
    Job.Ends (settings.build converter) files result files' := by
  cases h with
  | sourceUnread hsource =>
      apply (Job.ends_note _ _ _ files).bind
      exact (Job.ends_readText_error hsource).bind_error
  | unconverted hsource hconvert =>
      apply (Job.ends_note _ _ _ files).bind
      apply (Job.ends_readText hsource).bind
      exact (ends_convertNoted_error files hconvert).bind_error
  | templateUnread hsource hconvert htemplate =>
      apply (Job.ends_note _ _ _ files).bind
      apply (Job.ends_readText hsource).bind
      apply (ends_convertNoted files hconvert).bind
      apply (Job.ends_note _ _ _ files).bind
      apply (Job.ends_note _ _ _ files).bind
      exact (Job.ends_readText_error htemplate).bind_error
  | parentsUnmade hprepares hparents =>
      apply hprepares.ends
      apply Job.Ends.bind_error
      apply Job.ends_writeText_error
      rw [Files.writeBytes_eq, hparents]
  | unwritten hprepares hparents hwrite =>
      apply hprepares.ends
      apply Job.Ends.bind_error
      apply Job.ends_writeText_error
      rw [Files.writeBytes_eq, hparents]
      dsimp only
      rw [hwrite]
  | written hprepares hparents hwrite =>
      apply hprepares.ends
      have hbytes := Files.writeBytes_eq files (Path.ofText settings.output)
      rename_i conversion template made
      have hwritten : files.writeBytes (Path.ofText settings.output)
          (Text.bytes (settings.fillTemplate template conversion)) = (Except.ok (), files') := by
        rw [hbytes, hparents]
        dsimp only
        rw [hwrite]
      apply (Job.ends_writeText hwritten).bind
      apply (Job.ends_note _ _ _ files').bind
      exact Job.ends_pure _ files'

theorem builds_outcome (settings : Settings) (converter : Converter) (files : Files) :
    settings.Builds converter files
      (Job.outcome (settings.build converter) files).result
      (Job.outcome (settings.build converter) files).files := by
  rcases exists_builds settings converter files with ⟨result, files', hbuilds⟩
  rcases hbuilds.ends.outcome with ⟨hresult, hfiles⟩
  rw [hresult, hfiles]
  exact hbuilds

/-!
# Failed builds
-/

theorem Builds.addsDirectories {e : BuildError} {files' : Files}
    (h : settings.Builds converter files (Except.error e) files') :
    files.AddsDirectories (fun lead => lead.Precedes (Path.ofText settings.output)) files' := by
  have hparents := Files.addsDirectories_ensureParents files (Path.ofText settings.output)
  cases h with
  | sourceUnread _ =>
      exact Files.AddsDirectories.refl _ files
  | unconverted _ _ =>
      exact Files.AddsDirectories.refl _ files
  | templateUnread _ _ _ =>
      exact Files.AddsDirectories.refl _ files
  | parentsUnmade _ hmade =>
      rw [hmade] at hparents
      exact hparents
  | unwritten _ hmade _ =>
      rw [hmade] at hparents
      exact hparents

theorem Builds.files_eq {e : BuildError} {files' : Files}
    (h : settings.Builds converter files (Except.error e) files')
    (hwriting : forall path cause, e ≠ BuildError.writing path cause) : files' = files := by
  cases h with
  | sourceUnread _ =>
      rfl
  | unconverted _ _ =>
      rfl
  | templateUnread _ _ _ =>
      rfl
  | parentsUnmade _ _ =>
      exact absurd rfl (hwriting _ _)
  | unwritten _ _ _ =>
      exact absurd rfl (hwriting _ _)

/-- A failed build touches no file: its error is that of the first step that fails, and
all it can have done is to make directories on the way to the output. -/
theorem build_failed {e : BuildError}
    (h : (Job.outcome (settings.build converter) files).result = Except.error e) :
    let files' := (Job.outcome (settings.build converter) files).files
    settings.Builds converter files (Except.error e) files' ∧
      ((forall path cause, e ≠ BuildError.writing path cause) -> files' = files) ∧
      (forall location content,
        files'.find? location = some (FileNode.file content) ↔
          files.find? location = some (FileNode.file content)) ∧
      files.AddsDirectories (fun lead => lead.Precedes (Path.ofText settings.output)) files' := by
  intro files'
  have hbuilds := builds_outcome settings converter files
  rw [h] at hbuilds
  have hadds := hbuilds.addsDirectories
  exact ⟨hbuilds, hbuilds.files_eq, hadds.find?_eq_file_iff, hadds⟩

end Runs

theorem build_failed_in_new_directory :
    let files : Files :=
      { workingDirectory := []
        nodes :=
          [(["syntax.md".toList], FileNode.file (Text.bytes "# A")),
            (["syntax_template.html".toList], FileNode.file (Text.bytes "CONTENTSHERE"))] }
    let settings : Settings := { default with output := "new/page/" }
    let converter := Converter.constant (Except.ok { page := [], headings := [] })
    let outcome := Job.outcome (settings.build converter) files
    let e := BuildError.writing "new/page/" FileError.isDirectory
    outcome.result = Except.error e ∧
      settings.Builds converter files (Except.error e) outcome.files ∧
      files.AddsDirectories (fun lead => lead.Precedes (Path.ofText "new/page/")) outcome.files ∧
      files.find? ["new".toList] = none ∧
      outcome.files.find? ["new".toList] = some FileNode.directory := by
  intro files settings converter outcome e
  have hsource : files.readText (Path.ofText settings.source) = Except.ok "# A".toList :=
    Files.readText_of_readBytes rfl
  have htemplate : files.readText (Path.ofText settings.template) =
      Except.ok "CONTENTSHERE".toList :=
    Files.readText_of_readBytes rfl
  have hprepares : settings.Prepares converter files { page := [], headings := [] }
      "CONTENTSHERE" :=
    ⟨⟨"# A", hsource, rfl⟩, htemplate⟩
  have hparents : files.ensureParents (Path.ofText settings.output) =
      (Except.ok (), files.insert ["new".toList] FileNode.directory) := rfl
  have hbuilds : settings.Builds converter files (Except.error e) _ :=
    Builds.unwritten hprepares hparents rfl
  rcases hbuilds.ends.outcome with ⟨hresult, hfiles⟩
  have hfailed := build_failed hresult
  refine ⟨hresult, hfailed.1, hfailed.2.2.2, rfl, ?_⟩
  rw [hfiles]
  rfl

/-!
# Successful builds
-/

section Success

variable {settings : Settings} {converter : Converter} {files : Files}

/-- A successful build writes the page of its inputs as they were, also where it writes
over one of them, and gives the number of bytes of the page.  Elsewhere nothing
changes but directories that were missing on the way to the output. -/
theorem build_succeeded {n : Nat}
    (h : (Job.outcome (settings.build converter) files).result = Except.ok n) :
    let files' := (Job.outcome (settings.build converter) files).files
    exists (source template : Text) (conversion : Conversion) (location : Location),
      let page := Template.fill template conversion.page settings.title
        (Toc.render conversion.headings)
      files.readText (Path.ofText settings.source) = Except.ok source ∧
        files.readText (Path.ofText settings.template) = Except.ok template ∧
        converter.convert source = Except.ok conversion ∧
        files'.readBytes (Path.ofText settings.output) = Except.ok (Text.bytes page) ∧
        n = (Text.bytes page).size ∧
        files.Writes (Path.ofText settings.output) (Text.bytes page) location files' := by
  intro files'
  have hbuilds := builds_outcome settings converter files
  rw [h] at hbuilds
  cases hbuilds with
  | written hprepares hparents hwrite =>
      rename_i conversion template made
      rcases hprepares.converted with ⟨source, hsource, hconvert⟩
      rcases Files.writes_of_ensureParents hparents hwrite with ⟨⟨location, hwrites⟩, hread⟩
      exact ⟨source, template, conversion, location, hsource, hprepares.template, hconvert, hread,
        Text.utf8Length_eq_size_bytes _, hwrites⟩

end Success

/-- The output is the source, by a way through a directory that is made for it. -/
theorem build_succeeded_over_source :
    let files : Files :=
      { workingDirectory := []
        nodes :=
          [(["a.md".toList], FileNode.file (Text.bytes "a source that is longer than the page")),
            (["syntax_template.html".toList], FileNode.file (Text.bytes "<CONTENTSHERE>"))] }
    let settings : Settings := { default with source := "a.md", output := "new/../a.md" }
    let converter := Converter.constant (Except.ok { page := "é", headings := [] })
    let outcome := Job.outcome (settings.build converter) files
    outcome.result = Except.ok 4 ∧
      outcome.files.readBytes (Path.ofText "new/../a.md") = Except.ok (Text.bytes "<é>") ∧
      outcome.files.readBytes (Path.ofText "a.md") = Except.ok (Text.bytes "<é>") ∧
      outcome.files.find? ["new".toList] = some FileNode.directory ∧
      exists location,
        files.Writes (Path.ofText "new/../a.md") (Text.bytes "<é>") location outcome.files := by
  intro files settings converter outcome
  have hsource : files.readText (Path.ofText settings.source) =
      Except.ok "a source that is longer than the page".toList :=
    Files.readText_of_readBytes rfl
  have htemplate : files.readText (Path.ofText settings.template) =
      Except.ok "<CONTENTSHERE>".toList :=
    Files.readText_of_readBytes rfl
  let conversion : Conversion := { page := "é", headings := [] }
  let made := files.insert ["new".toList] FileNode.directory
  have hprepares : settings.Prepares converter files conversion "<CONTENTSHERE>" :=
    ⟨⟨_, hsource, rfl⟩, htemplate⟩
  have hpage : settings.fillTemplate "<CONTENTSHERE>" conversion = "<é>".toList := by
    decide +kernel
  have hparents : files.ensureParents (Path.ofText settings.output) = (Except.ok (), made) := rfl
  have hwrite : made.replaceFile (Path.ofText settings.output)
      (Text.bytes (settings.fillTemplate "<CONTENTSHERE>" conversion)) =
        Except.ok (made.insert ["a.md".toList] (FileNode.file (Text.bytes "<é>"))) := by
    rw [hpage]
    rfl
  rcases (Builds.written hprepares hparents hwrite).ends.outcome with ⟨hresult, hfiles⟩
  rw [hpage] at hresult
  rcases build_succeeded hresult with
    ⟨source, template, answer, location, _, hread, hconvert, hwritten, _, hwrites⟩
  have htemplates : template = "<CONTENTSHERE>".toList := by
    rw [htemplate] at hread
    injection hread with hread
    exact hread.symm
  have hanswer : conversion = answer := by
    injection hconvert
  have hfilled : Template.fill template answer.page settings.title (Toc.render answer.headings) =
      "<é>".toList := by
    rw [htemplates, ← hanswer]
    exact hpage
  rw [hfilled] at hwritten hwrites
  refine ⟨hresult, hwritten, ?_, ?_, location, hwrites⟩
  · rw [hfiles]
    rfl
  · rw [hfiles]
    rfl

end Settings
end Folio
