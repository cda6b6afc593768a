import Folio.Proofs.Build
import Folio.Proofs.Files.Repetition

/-!
# Building again

A build that has succeeded can be repeated, and nothing changes any more, as long as it
does not write over what it reads.  Where the output stands is seen afterwards: a path
may lead to the source only through directories that the build has made.
-/

namespace Folio
namespace Settings

section Rebuild

variable {settings : Settings} {converter : Converter} {files files' : Files}

theorem Prepares.again {conversion : Conversion} {template : Text} {content : ByteArray}
    {location : Location} (h : settings.Prepares converter files conversion template)
    (hwrites : files.Writes (Path.ofText settings.output) content location files')
    (hsource : ¬ files'.Meet (Path.ofText settings.output) (Path.ofText settings.source))
    (htemplate : ¬ files'.Meet (Path.ofText settings.output) (Path.ofText settings.template)) :
    settings.Prepares converter files' conversion template := by
  rcases h.converted with ⟨source, hread, hconvert⟩
  exact ⟨⟨source, hwrites.readText hread hsource, hconvert⟩,
    hwrites.readText h.template htemplate⟩

theorem Builds.again {n : Nat} (h : settings.Builds converter files (Except.ok n) files')
    (hsource : ¬ files'.Meet (Path.ofText settings.output) (Path.ofText settings.source))
    (htemplate : ¬ files'.Meet (Path.ofText settings.output) (Path.ofText settings.template)) :
    settings.Builds converter files' (Except.ok n) files' := by
  cases h with
  | written hprepares hparents hwrite =>
      rcases Files.writes_of_ensureParents hparents hwrite with ⟨⟨location, hwrites⟩, _⟩
      rcases Files.replaceFile_again hwrite with ⟨hkeeps, hwrite'⟩
      exact Builds.written (hprepares.again hwrites hsource htemplate)
        (Files.ensureParents_again hparents hkeeps) hwrite'

/-- Rebuilding is stable: after a successful build whose output is neither the source nor
the template, the same build on the files that it has left gives the same number of bytes
and leaves all files as they are. -/
theorem build_again {n : Nat}
    (h : (Job.outcome (settings.build converter) files).result = Except.ok n)
    (hsource : ¬ (Job.outcome (settings.build converter) files).files.Meet
      (Path.ofText settings.output) (Path.ofText settings.source))
    (htemplate : ¬ (Job.outcome (settings.build converter) files).files.Meet
      (Path.ofText settings.output) (Path.ofText settings.template)) :
    let built := (Job.outcome (settings.build converter) files).files
    let again := Job.outcome (settings.build converter) built
    again.result = Except.ok n ∧ again.files = built := by
  intro built again
  have hbuilds := builds_outcome settings converter files
  rw [h] at hbuilds
  exact (hbuilds.again hsource htemplate).ends.outcome

/-- The output is in a directory that is made for it, behind a way through another one. -/
theorem build_again_in_new_directory :
    let files : Files :=
      { workingDirectory := []
        nodes :=
          [(["syntax.md".toList], FileNode.file (Text.bytes "# A")),
            (["page.html".toList], FileNode.file (Text.bytes "<CONTENTSHERE>"))] }
    let settings : Settings :=
      { default with template := "page.html", output := "new/../site/page.html" }
    let converter := Converter.constant (Except.ok { page := "é", headings := [] })
    let outcome := Job.outcome (settings.build converter) files
    let again := Job.outcome (settings.build converter) outcome.files
    outcome.result = Except.ok 4 ∧
      ¬ outcome.files.Meet (Path.ofText settings.output) (Path.ofText settings.source) ∧
      ¬ outcome.files.Meet (Path.ofText settings.output) (Path.ofText settings.template) ∧
      files.find? ["site".toList] = none ∧
      again.result = Except.ok 4 ∧
      again.files = outcome.files := by
  intro files settings converter outcome again
  have hsource : files.readText (Path.ofText settings.source) = Except.ok "# A".toList :=
    Files.readText_of_readBytes rfl
  have htemplate : files.readText (Path.ofText settings.template) =
      Except.ok "<CONTENTSHERE>".toList :=
    Files.readText_of_readBytes rfl
  let conversion : Conversion := { page := "é", headings := [] }
  let made := (files.insert ["new".toList] FileNode.directory).insert ["site".toList]
    FileNode.directory
  let built := made.insert ["page.html".toList, "site".toList] (FileNode.file (Text.bytes "<é>"))
  have hprepares : settings.Prepares converter files conversion "<CONTENTSHERE>" :=
    ⟨⟨_, hsource, rfl⟩, htemplate⟩
  have hpage : settings.fillTemplate "<CONTENTSHERE>" conversion = "<é>".toList := by
    decide +kernel
  have hparents : files.ensureParents (Path.ofText settings.output) = (Except.ok (), made) := rfl
  have hwrite : made.replaceFile (Path.ofText settings.output)
      (Text.bytes (settings.fillTemplate "<CONTENTSHERE>" conversion)) = Except.ok built := by
    rw [hpage]
    rfl
  rcases (Builds.written hprepares hparents hwrite).ends.outcome with ⟨hresult, hfiles⟩
  rw [hpage] at hresult
  have houtput : built.follow (Path.ofText settings.output) =
      Except.ok (Files.Target.entry "page.html" ["site".toList]) := rfl
  have hmeet : forall other name,
      built.follow other = Except.ok (Files.Target.entry name []) ->
        ¬ outcome.files.Meet (Path.ofText settings.output) other := by
    rintro other name hother ⟨_, ⟨_, _, hleads, rfl⟩, _, _, hleads', heq⟩
    rw [hfiles, houtput] at hleads
    rw [hfiles, hother] at hleads'
    cases hleads
    cases hleads'
    cases heq
  have hsources := hmeet (Path.ofText settings.source) "syntax.md" rfl
  have htemplates := hmeet (Path.ofText settings.template) "page.html" rfl
  have hagain := build_again hresult hsources htemplates
  exact ⟨hresult, hsources, htemplates, rfl, hagain⟩

end Rebuild

end Settings
end Folio
