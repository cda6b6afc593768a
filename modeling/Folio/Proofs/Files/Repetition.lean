import Folio.Proofs.Files.Writing

/-!
# Writing again

Writing a file leaves the files in a state that the same writing does not change: the
directories on the way to the file are there by then, and what is put at its place is
what stands there already.  Every file at another place can still be read by the paths
it could be read by before.
-/

namespace Folio
namespace Files

variable {files files' made : Files} {path : Path} {content : ByteArray}

/-!
# Directories that are there
-/

theorem isDirectory_iff :
    files.isDirectory path = true ↔
      (exists location, files.follow path = Except.ok (Target.directory location)) ∨
        exists name outer,
          files.follow path = Except.ok (Target.entry name outer) ∧
            ¬ maxNameLength < Text.utf8Length name ∧
            files.find? (name :: outer) = some FileNode.directory := by
  unfold isDirectory entry?
  cases hfollow : files.follow path with
  | error e =>
      simp
  | ok target =>
      cases target with
      | directory location =>
          simp
      | entry name outer =>
          by_cases hlong : maxNameLength < Text.utf8Length name
          · simp [hlong, Nat.not_le.mpr hlong]
          · rcases hnode : files.find? (name :: outer) with _ | (content | _)
            · simp [hlong, hnode]
            · simp [hlong, hnode]
            · simp [hlong, hnode, Nat.le_of_not_lt hlong]

theorem KeepsDirectories.isDirectory (h : files.KeepsDirectories files')
    (hdirectory : files.isDirectory path = true) : files'.isDirectory path = true := by
  rw [isDirectory_iff] at hdirectory ⊢
  rcases hdirectory with ⟨location, hfollow⟩ | ⟨name, outer, hfollow, hshort, hnode⟩
  · exact Or.inl ⟨location, h.follow hfollow⟩
  · exact Or.inr ⟨name, outer, h.follow hfollow, hshort, h.directory _ hnode⟩

theorem isDirectory_of_makeDirectory (h : files.makeDirectory path = Except.ok files') :
    files'.isDirectory path = true := by
  rcases makeDirectory_cases h with ⟨name, outer, hfollow, hshort, hnone, rfl⟩
  have hfollow' := (keeps_insert FileNode.directory hnone).follow hfollow
  exact isDirectory_iff.mpr
    (Or.inr ⟨name, outer, hfollow', hshort, find?_insert_self files name outer _⟩)

theorem isDirectory_of_ensureDirectory
    (h : files.ensureDirectory path = (Except.ok (), files')) :
    files'.isDirectory path = true := by
  unfold ensureDirectory at h
  cases hmake : files.makeDirectory path with
  | ok made =>
      rw [hmake] at h
      injection h with _ h
      rw [← h]
      exact isDirectory_of_makeDirectory hmake
  | error e =>
      rw [hmake] at h
      dsimp only at h
      split at h
      · injection h with _ h
        rw [← h]
        assumption
      · cases h

theorem ensureDirectory_of_isDirectory (h : files.isDirectory path = true) :
    files.ensureDirectory path = (Except.ok (), files) := by
  unfold ensureDirectory
  cases hmake : files.makeDirectory path with
  | error e =>
      dsimp only
      rw [if_pos h]
  | ok made =>
      rcases makeDirectory_cases hmake with ⟨name, outer, hfollow, _, hnone, _⟩
      rcases isDirectory_iff.mp h with ⟨location, hfollow'⟩ | ⟨name', outer', hfollow', _, hnode⟩
      · rw [hfollow] at hfollow'
        cases hfollow'
      · rw [hfollow] at hfollow'
        injection hfollow' with htarget
        injection htarget with hname houter
        rw [← hname, ← houter, hnone] at hnode
        cases hnode

theorem isDirectory_of_ensureSteps {isAbsolute : Bool} {step : Text} {outer : List Text}
    (h : ensureSteps isAbsolute (step :: outer) files = (Except.ok (), files')) :
    files'.isDirectory (pathOfSteps isAbsolute (step :: outer)) = true := by
  rw [ensureSteps, ← pathOfSteps] at h
  split at h
  · rename_i tried _
    rcases hmade : ensureSteps isAbsolute outer tried with ⟨e | _, made⟩
    · rw [hmade] at h
      cases h
    · rw [hmade] at h
      exact isDirectory_of_ensureDirectory h
  · exact isDirectory_of_ensureDirectory h

theorem ensureSteps_again {isAbsolute : Bool} {steps : List Text}
    (h : ensureSteps isAbsolute steps files = (Except.ok (), made))
    (hkeeps : made.KeepsDirectories files') :
    ensureSteps isAbsolute steps files' = (Except.ok (), files') := by
  cases steps with
  | nil =>
      rfl
  | cons step outer =>
      have hdirectory := hkeeps.isDirectory (isDirectory_of_ensureSteps h)
      rw [ensureSteps, ← pathOfSteps, ensureDirectory_of_isDirectory hdirectory]

theorem ensureDirectories_again (h : files.ensureDirectories path = (Except.ok (), made))
    (hkeeps : made.KeepsDirectories files') :
    files'.ensureDirectories path = (Except.ok (), files') := by
  unfold ensureDirectories at h ⊢
  cases hfault : pathFault? path with
  | some e =>
      rw [hfault] at h
      cases h
  | none =>
      rw [hfault] at h
      exact ensureSteps_again h hkeeps

theorem ensureParents_again (h : files.ensureParents path = (Except.ok (), made))
    (hkeeps : made.KeepsDirectories files') :
    files'.ensureParents path = (Except.ok (), files') := by
  unfold ensureParents at h ⊢
  cases hparent : path.parent? with
  | none =>
      rfl
  | some parent =>
      rw [hparent] at h
      exact ensureDirectories_again h hkeeps

/-!
# A file that is there
-/

theorem insert_insert_self (files : Files) (location : Location) (node : FileNode) :
    (files.insert location node).insert location node = files.insert location node := by
  simp [insert, without]

theorem replaceFile_again (h : made.replaceFile path content = Except.ok files') :
    made.KeepsDirectories files' ∧ files'.replaceFile path content = Except.ok files' := by
  rcases replaceFile_cases h with ⟨name, outer, hfollow, hasks, hshort, hplace, rfl⟩
  have hkeeps : made.KeepsDirectories _ := keepsDirectories_insert (FileNode.file content) hplace
  refine ⟨hkeeps, ?_⟩
  rw [replaceFile, hkeeps.follow hfollow]
  dsimp only
  rw [hasks, if_neg Bool.false_ne_true, entry?, if_neg hshort, find?_insert_self]
  dsimp only
  rw [insert_insert_self]

/-!
# Files at other places
-/

/-- Whether two paths lead to one place. -/
def Meet (files : Files) (path other : Path) : Prop :=
  exists location, files.LeadsTo path location ∧ files.LeadsTo other location

theorem readBytes_cases (h : files.readBytes path = Except.ok content) :
    exists name outer,
      files.follow path = Except.ok (Target.entry name outer) ∧
        path.asksDirectory = false ∧
        ¬ maxNameLength < Text.utf8Length name ∧
        files.find? (name :: outer) = some (FileNode.file content) := by
  unfold readBytes at h
  cases hfollow : files.follow path with
  | error e =>
      rw [hfollow] at h
      cases h
  | ok target =>
      rw [hfollow] at h
      cases target with
      | directory location =>
          cases h
      | entry name outer =>
          dsimp only at h
          unfold entry? at h
          by_cases hlong : maxNameLength < Text.utf8Length name
          · rw [if_pos hlong] at h
            cases h
          · rw [if_neg hlong] at h
            rcases hnode : files.find? (name :: outer) with _ | (stored | _)
            · rw [hnode] at h
              cases h
            · rw [hnode] at h
              dsimp only at h
              cases hasks : path.asksDirectory with
              | true =>
                  rw [hasks, if_pos rfl] at h
                  cases h
              | false =>
                  rw [hasks, if_neg Bool.false_ne_true] at h
                  injection h with h
                  exact ⟨name, outer, rfl, rfl, hlong, by rw [hnode, h]⟩
            · rw [hnode] at h
              cases h

theorem Writes.keepsDirectories {location : Location}
    (h : files.Writes path content location files') : files.KeepsDirectories files' where
  workingDirectory := h.workingDirectory
  directory := by
    intro other hother
    have hne : other ≠ location := by
      rintro rfl
      exact h.replaced hother
    rcases h.other other hne with hsame | ⟨hnone, _⟩
    · rw [hsame, hother]
    · rw [hnone] at hother
      cases hother

theorem Writes.readBytes {location : Location} {other : Path} {stored : ByteArray}
    (h : files.Writes path content location files')
    (hread : files.readBytes other = Except.ok stored) (hmeet : ¬ files'.Meet path other) :
    files'.readBytes other = Except.ok stored := by
  rcases readBytes_cases hread with ⟨name, outer, hfollow, hasks, hshort, hnode⟩
  have hfollow' := h.keepsDirectories.follow hfollow
  have hne : name :: outer ≠ location := by
    intro heq
    exact hmeet ⟨location, h.leadsTo, name, outer, hfollow', heq.symm⟩
  apply readBytes_of_entry hfollow' hasks hshort
  rcases h.other (name :: outer) hne with hsame | ⟨hnone, _⟩
  · rw [hsame, hnode]
  · rw [hnone] at hnode
    cases hnode

theorem Writes.readText {location : Location} {other : Path} {s : Text}
    (h : files.Writes path content location files')
    (hread : files.readText other = Except.ok s) (hmeet : ¬ files'.Meet path other) :
    files'.readText other = Except.ok s := by
  unfold Files.readText at hread ⊢
  cases hbytes : files.readBytes other with
  | error e =>
      rw [hbytes] at hread
      cases hread
  | ok stored =>
      rw [hbytes] at hread
      rw [h.readBytes hbytes hmeet]
      exact hread

end Files
end Folio
