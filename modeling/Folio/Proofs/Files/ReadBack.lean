import Folio.Proofs.Files.Repetition
import Folio.Proofs.Job

/-!
# Reading back what was written

A text that was written to a file is what is read from it afterwards, by every path that
resolves to the file then.  What a path resolves to is seen in the state after the writing:
it may go through a directory that was made for it.
-/

namespace Folio
namespace Files

variable {files files' : Files} {path other : Path} {content : ByteArray} {location : Location}

/-- Whether a path resolves to the file at a location.  A path that asks for a directory
resolves to no file. -/
structure Opens (files : Files) (path : Path) (location : Location) : Prop where
  leadsTo : files.LeadsTo path location
  asksFile : path.asksDirectory = false
  file : exists content, files.find? location = some (FileNode.file content)

theorem readBytes_at (h : files.readBytes path = Except.ok content)
    (hleads : files.LeadsTo path location) :
    exists name outer,
      location = name :: outer ∧
        path.asksDirectory = false ∧
        ¬ maxNameLength < Text.utf8Length name ∧
        files.find? (name :: outer) = some (FileNode.file content) := by
  rcases readBytes_cases h with ⟨name, outer, hfollow, hasks, hshort, hfile⟩
  rcases hleads with ⟨name', outer', hfollow', hplace⟩
  rw [hfollow] at hfollow'
  injection hfollow' with htarget
  injection htarget with hname houter
  exact ⟨name, outer, by rw [hplace, hname, houter], hasks, hshort, hfile⟩

theorem opens_of_readBytes (h : files.readBytes path = Except.ok content)
    (hleads : files.LeadsTo path location) : files.Opens path location := by
  rcases readBytes_at h hleads with ⟨name, outer, rfl, hasks, _, hfile⟩
  exact ⟨hleads, hasks, content, hfile⟩

theorem Opens.readBytes (hother : files.Opens other location)
    (hleads : files.LeadsTo path location) (h : files.readBytes path = Except.ok content) :
    files.readBytes other = Except.ok content := by
  rcases readBytes_at h hleads with ⟨name, outer, rfl, _, hshort, hfile⟩
  rcases hother.leadsTo with ⟨name', outer', hfollow, hplace⟩
  injection hplace with hname houter
  rw [← hname, ← houter] at hfollow
  exact readBytes_of_entry hfollow hother.asksFile hshort hfile

theorem writes_of_writeBytes (h : files.writeBytes path content = (Except.ok (), files')) :
    (exists location, files.Writes path content location files') ∧
      files'.readBytes path = Except.ok content := by
  rw [writeBytes_eq] at h
  rcases hparents : files.ensureParents path with ⟨e | _, made⟩
  · rw [hparents] at h
    cases h
  · rw [hparents] at h
    dsimp only at h
    cases hreplace : made.replaceFile path content with
    | error e =>
        rw [hreplace] at h
        cases h
    | ok written =>
        rw [hreplace] at h
        injection h with _ hwritten
        rw [hwritten] at hreplace
        exact writes_of_ensureParents hparents hreplace

namespace Writes

variable (h : files.Writes path content location files')

include h

theorem find?_eq_file_iff {place : Location} (hplace : place ≠ location) (stored : ByteArray) :
    files'.find? place = some (FileNode.file stored) ↔
      files.find? place = some (FileNode.file stored) := by
  rcases h.other place hplace with hsame | ⟨hnone, hmade, _⟩
  · rw [hsame]
  · rw [hnone, hmade]
    simp

theorem directory_cases {place : Location} (hplace : files'.find? place = some FileNode.directory) :
    files.find? place = some FileNode.directory ∨
      (files.find? place = none ∧
        exists lead : Path, lead.Precedes path ∧ files'.LeadsTo lead place) := by
  have hne : place ≠ location := by
    rintro rfl
    rw [h.written] at hplace
    cases hplace
  rcases h.other place hne with hsame | ⟨hnone, _, hlead⟩
  · rw [← hsame]
    exact Or.inl hplace
  · exact Or.inr ⟨hnone, hlead⟩

end Writes

end Files

namespace Job

theorem writeBytes_of_writeText {path content : Text} {files : Files}
    (h : (Job.outcome (writeText path content) files).result = Except.ok ()) :
    files.writeBytes (Path.ofText path) (Text.bytes content) =
      (Except.ok (), (Job.outcome (writeText path content) files).files) := by
  rcases hwrite : files.writeBytes (Path.ofText path) (Text.bytes content) with ⟨e | _, files'⟩
  · rw [(ends_writeText_error hwrite).outcome.1] at h
    cases h
  · rw [(ends_writeText hwrite).outcome.2]

/-- After a text was written to a file, every path that resolves to the file gives the text,
and so does the path that it was written by.  All other files keep their bytes, all
directories stay, and new ones are only on the way to the file. -/
theorem writeText_readable {path content : Text} {files : Files}
    (h : (Job.outcome (writeText path content) files).result = Except.ok ()) :
    let files' := (Job.outcome (writeText path content) files).files
    exists location,
      files'.Opens (Path.ofText path) location ∧
        (forall other, files'.Opens (Path.ofText other) location ->
          (Job.outcome (readText other) files').result = Except.ok content ∧
            (Job.outcome (readText other) files').files = files') ∧
        (forall place, place ≠ location -> forall stored,
          files'.find? place = some (FileNode.file stored) ↔
            files.find? place = some (FileNode.file stored)) ∧
        files.KeepsDirectories files' ∧
        forall place, files'.find? place = some FileNode.directory ->
          files.find? place = some FileNode.directory ∨
            (files.find? place = none ∧
              exists lead : Path,
                lead.Precedes (Path.ofText path) ∧ files'.LeadsTo lead place) := by
  intro files'
  rcases Files.writes_of_writeBytes (writeBytes_of_writeText h) with ⟨⟨location, hwrites⟩, hread⟩
  refine ⟨location, Files.opens_of_readBytes hread hwrites.leadsTo, ?_,
    fun _ hplace => hwrites.find?_eq_file_iff hplace, hwrites.keepsDirectories,
    fun _ hplace => hwrites.directory_cases hplace⟩
  intro other hopens
  have hbytes := hopens.readBytes hwrites.leadsTo hread
  exact (ends_readText (Files.readText_of_readBytes hbytes)).outcome

/-- The path goes through a directory that is made for it, and the file is one that was longer
before. -/
theorem writeText_readable_in_new_directory :
    let files : Files :=
      { workingDirectory := []
        nodes :=
          [(["a".toList], FileNode.directory),
            (["b".toList, "a".toList], FileNode.file (Text.bytes "a longer text")),
            (["c".toList], FileNode.file (Text.bytes "c"))] }
    let outcome := Job.outcome (writeText "new/../a//b" "é") files
    let read := Job.outcome (readText "./a/b") outcome.files
    outcome.result = Except.ok () ∧
      read.result = Except.ok "é".toList ∧
      outcome.files.find? ["c".toList] = some (FileNode.file (Text.bytes "c")) ∧
      outcome.files.find? ["new".toList] = some FileNode.directory := by
  intro files outcome read
  let made := files.insert ["new".toList] FileNode.directory
  have hwrite : files.writeBytes (Path.ofText "new/../a//b") (Text.bytes "é") =
      (Except.ok (), made.insert ["b".toList, "a".toList] (FileNode.file (Text.bytes "é"))) := rfl
  rcases (ends_writeText hwrite).outcome with ⟨hresult, hfiles⟩
  rcases writeText_readable hresult with ⟨location, hopens, hread, hother, _⟩
  have hlocation : location = ["b".toList, "a".toList] := by
    rcases hopens.leadsTo with ⟨name, outer, hfollow, hplace⟩
    rw [hfiles] at hfollow
    cases hfollow
    exact hplace
  rw [hfiles, hlocation] at hread
  rw [hfiles, hlocation] at hother
  have hspelling : (made.insert ["b".toList, "a".toList] (FileNode.file (Text.bytes "é"))).Opens
      (Path.ofText "./a/b") ["b".toList, "a".toList] :=
    ⟨⟨_, _, rfl, rfl⟩, rfl, _, rfl⟩
  refine ⟨hresult, ?_, ?_, ?_⟩
  · have hresult' := (hread "./a/b" hspelling).1
    rw [← hfiles] at hresult'
    exact hresult'
  · rw [hfiles]
    exact (hother ["c".toList] (by decide) _).mpr rfl
  · rw [hfiles]
    rfl

end Job
end Folio
