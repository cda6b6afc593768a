import Folio.Proofs.Files.Directories

/-!
# Writing files

A file that is written takes the place of what the path led to, which was a file or
nothing.  The directories on the way to it may be new; all else is as it was.
-/

namespace Folio
namespace Files

variable {files files' : Files} {path : Path} {content : ByteArray}

/-- What writing a file changes: the file at its location holds the given bytes, the
path leads there, and elsewhere nothing differs but new directories on the way. -/
structure Writes (files : Files) (path : Path) (content : ByteArray) (location : Location)
    (files' : Files) : Prop where
  workingDirectory : files'.workingDirectory = files.workingDirectory
  leadsTo : files'.LeadsTo path location
  written : files'.find? location = some (FileNode.file content)
  replaced : files.find? location ≠ some FileNode.directory
  other : forall other, other ≠ location ->
    files'.find? other = files.find? other ∨
      (files.find? other = none ∧
        files'.find? other = some FileNode.directory ∧
        exists lead : Path, lead.Precedes path ∧ files'.LeadsTo lead other)

/-!
# Replacing a file
-/

theorem replaceFile_cases (h : files.replaceFile path content = Except.ok files') :
    exists name outer,
      files.follow path = Except.ok (Target.entry name outer) ∧
        path.asksDirectory = false ∧
        ¬ maxNameLength < Text.utf8Length name ∧
        files.find? (name :: outer) ≠ some FileNode.directory ∧
        files' = files.insert (name :: outer) (FileNode.file content) := by
  unfold replaceFile at h
  cases hfollow : files.follow path with
  | error e =>
      rw [hfollow] at h
      cases h
  | ok target =>
      rw [hfollow] at h
      cases target with
      | directory location =>
          cases h
      | entry name outer =>
          dsimp only at h
          cases hasks : path.asksDirectory with
          | true =>
              rw [hasks, if_pos rfl] at h
              cases h
          | false =>
              rw [hasks, if_neg Bool.false_ne_true, entry?] at h
              by_cases hlong : maxNameLength < Text.utf8Length name
              · rw [if_pos hlong] at h
                cases h
              · rw [if_neg hlong] at h
                refine ⟨name, outer, rfl, rfl, hlong, ?_⟩
                cases hnode : files.find? (name :: outer) with
                | none =>
                    rw [hnode] at h
                    injection h with h
                    exact ⟨by simp, h.symm⟩
                | some node =>
                    rw [hnode] at h
                    cases node with
                    | directory =>
                        cases h
                    | file old =>
                        injection h with h
                        exact ⟨by simp, h.symm⟩

theorem keepsDirectories_insert {location : Location} (node : FileNode)
    (h : files.find? location ≠ some FileNode.directory) :
    files.KeepsDirectories (files.insert location node) where
  workingDirectory := rfl
  directory := by
    intro other hother
    have hne : other ≠ location := by
      rintro rfl
      exact h hother
    rw [find?_insert_of_ne files node hne]
    exact hother

theorem readBytes_of_entry {name : Text} {outer : Location}
    (hfollow : files.follow path = Except.ok (Target.entry name outer))
    (hasks : path.asksDirectory = false) (hshort : ¬ maxNameLength < Text.utf8Length name)
    (hfile : files.find? (name :: outer) = some (FileNode.file content)) :
    files.readBytes path = Except.ok content := by
  rw [readBytes, hfollow]
  dsimp only
  unfold entry?
  rw [if_neg hshort, hfile]
  dsimp only
  rw [hasks, if_neg Bool.false_ne_true]

theorem readText_of_readBytes {s : Text} (h : files.readBytes path = Except.ok (Text.bytes s)) :
    files.readText path = Except.ok s := by
  rw [readText, h]
  dsimp only
  rw [Text.ofBytes?_bytes]

/-!
# Writing
-/

theorem writes_of_ensureParents {made : Files}
    (hparents : files.ensureParents path = (Except.ok (), made))
    (hreplace : made.replaceFile path content = Except.ok files') :
    (exists location, files.Writes path content location files') ∧
      files'.readBytes path = Except.ok content := by
  have hadds := addsDirectories_ensureParents files path
  rw [hparents] at hadds
  rcases replaceFile_cases hreplace with ⟨name, outer, hfollow, hasks, hshort, hplace, rfl⟩
  have hkeeps : made.KeepsDirectories _ := keepsDirectories_insert (FileNode.file content) hplace
  have hfile := find?_insert_self made name outer (FileNode.file content)
  refine ⟨⟨name :: outer, ?_⟩, readBytes_of_entry (hkeeps.follow hfollow) hasks hshort hfile⟩
  constructor
  · exact hadds.workingDirectory
  · exact ⟨name, outer, hkeeps.follow hfollow, rfl⟩
  · exact hfile
  · intro hdirectory
    exact hplace (hadds.keeps.node _ _ hdirectory)
  · intro other hother
    rw [find?_insert_of_ne made _ hother]
    rcases hadds.node other with hsame | ⟨hnone, hmade, lead, hlead, target, outer', hleads, hat⟩
    · exact Or.inl hsame
    · exact Or.inr ⟨hnone, hmade, lead, hlead, target, outer', hkeeps.follow hleads, hat⟩

end Files
end Folio
