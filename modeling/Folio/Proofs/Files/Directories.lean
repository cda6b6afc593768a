import Mathlib.Data.List.Basic
import Folio.Files

/-!
# Making directories

Making the directories on the way to a place adds directories and changes nothing
else.  Every new directory is at a place that one of the paths on the way leads to,
and where a path led before, it still leads.
-/

namespace Folio

namespace Path

/-!
# Paths on the way
-/

/-- Whether a path goes some of the steps of another one, but not all of them. -/
structure Precedes (lead path : Path) : Prop where
  isAbsolute : lead.isAbsolute = path.isAbsolute
  steps : lead.steps <+: path.plainSteps
  shorter : lead.steps.length < path.plainSteps.length

theorem counted_of_trimmed_cons {isAbsolute : Bool} {steps outer : List Text} {step : Text}
    (h : trimmed isAbsolute steps = step :: outer) :
    counted isAbsolute steps = step :: counted isAbsolute outer := by
  induction steps with
  | nil =>
      cases h
  | cons first steps ih =>
      rw [trimmed] at h
      rw [counted]
      split at h
      · rename_i hidle
        rw [if_pos hidle]
        exact ih h
      · rename_i hcounts
        injection h with hstep houter
        rw [if_neg hcounts, hstep, houter]

theorem counted_trimmed (isAbsolute : Bool) (steps : List Text) :
    counted isAbsolute (trimmed isAbsolute steps) = counted isAbsolute steps := by
  induction steps with
  | nil =>
      rfl
  | cons step outer ih =>
      rw [trimmed]
      split
      · rename_i hidle
        rw [counted, if_pos hidle, ih]
      · rfl

theorem plainSteps_parent {path parent : Path} (h : path.parent? = some parent) :
    parent.isAbsolute = path.isAbsolute ∧ parent.plainSteps = path.plainSteps.dropLast ∧
      path.plainSteps ≠ [] := by
  unfold parent? at h
  cases hsteps : trimmed path.isAbsolute path.steps.reverse with
  | nil =>
      rw [hsteps] at h
      cases h
  | cons step outer =>
      rw [hsteps] at h
      injection h with hparent
      have hpath : path.plainSteps = (counted path.isAbsolute outer).reverse ++ [step] := by
        rw [plainSteps, counted_of_trimmed_cons hsteps, List.reverse_cons]
      have hplain : parent.plainSteps = (counted path.isAbsolute outer).reverse := by
        rw [← hparent, plainSteps, List.reverse_reverse, counted_trimmed]
      refine ⟨by rw [← hparent], ?_, ?_⟩
      · rw [hpath, hplain, List.dropLast_concat]
      · rw [hpath]
        exact List.concat_ne_nil step _

end Path

namespace Files

/-!
# States that keep what was there
-/

structure KeepsDirectories (files files' : Files) : Prop where
  workingDirectory : files'.workingDirectory = files.workingDirectory
  directory : forall location, files.find? location = some FileNode.directory ->
    files'.find? location = some FileNode.directory

namespace KeepsDirectories

variable {files files' : Files}

theorem enter (h : files.KeepsDirectories files') {location next : Location} {step : Text}
    (henter : files.enter location step = Except.ok next) :
    files'.enter location step = Except.ok next := by
  unfold Files.enter entry? at henter ⊢
  by_cases hstays : Path.stays step = true
  · rw [if_pos hstays] at henter ⊢
    exact henter
  · by_cases hup : step = Path.up
    · rw [if_neg hstays, if_pos hup] at henter ⊢
      exact henter
    · by_cases hlong : maxNameLength < Text.utf8Length step
      · rw [if_neg hstays, if_neg hup, if_pos hlong] at henter
        cases henter
      · rw [if_neg hstays, if_neg hup, if_neg hlong] at henter ⊢
        cases hnode : files.find? (step :: location) with
        | none =>
            rw [hnode] at henter
            cases henter
        | some node =>
            rw [hnode] at henter
            cases node with
            | file content =>
                cases henter
            | directory =>
                rw [h.directory _ hnode]
                exact henter

theorem followFrom (h : files.KeepsDirectories files') {steps : List Text} {location : Location}
    {target : Target} (hfollow : files.followFrom location steps = Except.ok target) :
    files'.followFrom location steps = Except.ok target := by
  induction steps generalizing location with
  | nil =>
      exact hfollow
  | cons step steps ih =>
      cases steps with
      | nil =>
          exact hfollow
      | cons next steps =>
          rw [Files.followFrom] at hfollow ⊢
          cases henter : files.enter location step with
          | error e =>
              rw [henter] at hfollow
              cases hfollow
          | ok inner =>
              rw [henter] at hfollow
              rw [h.enter henter]
              exact ih hfollow

theorem follow (h : files.KeepsDirectories files') {path : Path} {target : Target}
    (hfollow : files.follow path = Except.ok target) :
    files'.follow path = Except.ok target := by
  unfold Files.follow at hfollow ⊢
  cases hfault : pathFault? path with
  | some e =>
      rw [hfault] at hfollow
      cases hfollow
  | none =>
      rw [hfault] at hfollow
      dsimp only at hfollow ⊢
      by_cases hempty : path.isEmpty = true
      · rw [if_pos hempty] at hfollow
        cases hfollow
      · rw [if_neg hempty] at hfollow ⊢
        rw [h.workingDirectory]
        exact h.followFrom hfollow

end KeepsDirectories

structure Keeps (files files' : Files) : Prop where
  workingDirectory : files'.workingDirectory = files.workingDirectory
  node : forall location node, files.find? location = some node ->
    files'.find? location = some node

namespace Keeps

variable {files files' : Files}

theorem keepsDirectories (h : files.Keeps files') : files.KeepsDirectories files' where
  workingDirectory := h.workingDirectory
  directory := fun location => h.node location FileNode.directory

theorem follow (h : files.Keeps files') {path : Path} {target : Target}
    (hfollow : files.follow path = Except.ok target) :
    files'.follow path = Except.ok target :=
  h.keepsDirectories.follow hfollow

end Keeps

/-!
# New directories
-/

def LeadsTo (files : Files) (path : Path) (location : Location) : Prop :=
  exists name outer,
    files.follow path = Except.ok (Target.entry name outer) ∧ location = name :: outer

/-- Whether a state differs from another one by new directories alone, each at the end
of one of the named paths. -/
structure AddsDirectories (named : Path -> Prop) (files files' : Files) : Prop where
  workingDirectory : files'.workingDirectory = files.workingDirectory
  node : forall location,
    files'.find? location = files.find? location ∨
      (files.find? location = none ∧
        files'.find? location = some FileNode.directory ∧
        exists path, named path ∧ files'.LeadsTo path location)

namespace AddsDirectories

variable {named : Path -> Prop} {files files' files'' : Files}

theorem refl (named : Path -> Prop) (files : Files) : files.AddsDirectories named files where
  workingDirectory := rfl
  node := fun _ => Or.inl rfl

theorem keeps (h : files.AddsDirectories named files') : files.Keeps files' where
  workingDirectory := h.workingDirectory
  node := by
    intro location node hnode
    rcases h.node location with hsame | ⟨hnone, _⟩
    · rw [hsame, hnode]
    · rw [hnode] at hnone
      cases hnone

theorem trans (h : files.AddsDirectories named files')
    (h' : files'.AddsDirectories named files'') : files.AddsDirectories named files'' where
  workingDirectory := h'.workingDirectory.trans h.workingDirectory
  node := by
    intro location
    rcases h'.node location with hsame | ⟨hnone, hnew⟩
    · rcases h.node location with hold | ⟨hnone, hmade, path, hnamed, name, outer, hfollow, hplace⟩
      · exact Or.inl (hsame.trans hold)
      · exact Or.inr ⟨hnone, hsame.trans hmade, path, hnamed, name, outer,
          h'.keeps.follow hfollow, hplace⟩
    · rcases h.node location with hold | ⟨_, hmade, _⟩
      · exact Or.inr ⟨hold.symm.trans hnone, hnew⟩
      · rw [hmade] at hnone
        cases hnone

theorem mono {other : Path -> Prop} (h : files.AddsDirectories named files')
    (hother : forall path, named path -> other path) : files.AddsDirectories other files' where
  workingDirectory := h.workingDirectory
  node := by
    intro location
    rcases h.node location with hsame | ⟨hnone, hmade, path, hnamed, hleads⟩
    · exact Or.inl hsame
    · exact Or.inr ⟨hnone, hmade, path, hother path hnamed, hleads⟩

theorem find?_eq_file_iff (h : files.AddsDirectories named files') (location : Location)
    (content : ByteArray) :
    files'.find? location = some (FileNode.file content) ↔
      files.find? location = some (FileNode.file content) := by
  rcases h.node location with hsame | ⟨hnone, hmade, _⟩
  · rw [hsame]
  · rw [hnone, hmade]
    simp

end AddsDirectories

/-!
# Steps of making directories
-/

theorem keeps_insert {files : Files} {name : Text} {outer : Location} (node : FileNode)
    (h : files.find? (name :: outer) = none) : files.Keeps (files.insert (name :: outer) node) where
  workingDirectory := rfl
  node := by
    intro location other hother
    by_cases hplace : location = name :: outer
    · rw [hplace, h] at hother
      cases hother
    · rw [find?_insert_of_ne files node hplace]
      exact hother

theorem makeDirectory_cases {files files' : Files} {path : Path}
    (h : files.makeDirectory path = Except.ok files') :
    exists name outer,
      files.follow path = Except.ok (Target.entry name outer) ∧
        ¬ maxNameLength < Text.utf8Length name ∧
        files.find? (name :: outer) = none ∧
        files' = files.insert (name :: outer) FileNode.directory := by
  unfold makeDirectory at h
  cases hfollow : files.follow path with
  | error e =>
      rw [hfollow] at h
      cases h
  | ok target =>
      rw [hfollow] at h
      cases target with
      | directory location =>
          cases h
      | entry name outer =>
          dsimp only at h
          unfold entry? at h
          by_cases hlong : maxNameLength < Text.utf8Length name
          · rw [if_pos hlong] at h
            cases h
          · rw [if_neg hlong] at h
            cases hnode : files.find? (name :: outer) with
            | some node =>
                rw [hnode] at h
                cases h
            | none =>
                rw [hnode] at h
                injection h with h
                exact ⟨name, outer, rfl, hlong, hnode, h.symm⟩

theorem addsDirectories_of_makeDirectory {named : Path -> Prop} {files files' : Files} {path : Path}
    (hnamed : named path) (h : files.makeDirectory path = Except.ok files') :
    files.AddsDirectories named files' := by
  rcases makeDirectory_cases h with ⟨name, outer, hfollow, _, hnone, rfl⟩
  refine ⟨rfl, ?_⟩
  intro location
  by_cases hplace : location = name :: outer
  · rw [hplace]
    exact Or.inr ⟨hnone, find?_insert_self files name outer _, path, hnamed, name, outer,
      (keeps_insert _ hnone).follow hfollow, rfl⟩
  · exact Or.inl (find?_insert_of_ne files _ hplace)

theorem addsDirectories_ensureDirectory {named : Path -> Prop} (files : Files) {path : Path}
    (hnamed : named path) : files.AddsDirectories named (files.ensureDirectory path).2 := by
  unfold ensureDirectory
  cases hmake : files.makeDirectory path with
  | ok files' =>
      exact addsDirectories_of_makeDirectory hnamed hmake
  | error e =>
      dsimp only
      split
      · exact AddsDirectories.refl named files
      · exact AddsDirectories.refl named files

def pathOfSteps (isAbsolute : Bool) (steps : List Text) : Path where
  isAbsolute := isAbsolute
  steps := steps.reverse
  slashes := 0

theorem ensureSteps_cons_cases (isAbsolute : Bool) (step : Text) (outer : List Text)
    (files : Files) :
    let path := pathOfSteps isAbsolute (step :: outer)
    let tried := (files.ensureDirectory path).2
    let made := (ensureSteps isAbsolute outer tried).2
    let final := (ensureSteps isAbsolute (step :: outer) files).2
    final = tried ∨ final = made ∨ final = (made.ensureDirectory path).2 := by
  dsimp only
  rw [ensureSteps, ← pathOfSteps]
  rcases files.ensureDirectory (pathOfSteps isAbsolute (step :: outer)) with ⟨result, tried⟩
  dsimp only
  split
  · rename_i heq
    injection heq with _ htried
    subst htried
    rcases ensureSteps isAbsolute outer tried with ⟨result, made⟩
    cases result with
    | error e =>
        exact Or.inr (Or.inl rfl)
    | ok _ =>
        exact Or.inr (Or.inr rfl)
  · exact Or.inl rfl

structure StartsOf (isAbsolute : Bool) (steps : List Text) (path : Path) : Prop where
  isAbsolute : path.isAbsolute = isAbsolute
  steps : path.steps.reverse <:+ steps

theorem addsDirectories_ensureSteps (isAbsolute : Bool) (steps : List Text) (files : Files) :
    files.AddsDirectories (StartsOf isAbsolute steps) (ensureSteps isAbsolute steps files).2 := by
  induction steps generalizing files with
  | nil =>
      exact AddsDirectories.refl _ files
  | cons step outer ih =>
      have hnamed : StartsOf isAbsolute (step :: outer) (pathOfSteps isAbsolute (step :: outer)) := by
        refine ⟨rfl, ?_⟩
        simp [pathOfSteps]
      have htried := addsDirectories_ensureDirectory files hnamed
      have hmade : forall tried : Files, tried.AddsDirectories
          (StartsOf isAbsolute (step :: outer)) (ensureSteps isAbsolute outer tried).2 := by
        intro tried
        apply (ih tried).mono
        intro lead hlead
        exact ⟨hlead.isAbsolute, hlead.steps.trans (List.suffix_cons step outer)⟩
      rcases ensureSteps_cons_cases isAbsolute step outer files with hfinal | hfinal | hfinal
      · rw [hfinal]
        exact htried
      · rw [hfinal]
        exact htried.trans (hmade _)
      · rw [hfinal]
        exact (htried.trans (hmade _)).trans (addsDirectories_ensureDirectory _ hnamed)

theorem addsDirectories_ensureDirectories (files : Files) (path : Path) :
    files.AddsDirectories (StartsOf path.isAbsolute path.plainSteps.reverse)
      (files.ensureDirectories path).2 := by
  unfold ensureDirectories
  cases pathFault? path with
  | some e =>
      exact AddsDirectories.refl _ files
  | none =>
      exact addsDirectories_ensureSteps path.isAbsolute path.plainSteps.reverse files

/-!
# The way to a path
-/

def ensureParents (files : Files) (path : Path) : Except FileError Unit × Files :=
  match path.parent? with
  | none => (Except.ok (), files)
  | some parent => files.ensureDirectories parent

theorem addsDirectories_ensureParents (files : Files) (path : Path) :
    files.AddsDirectories (fun lead => lead.Precedes path) (files.ensureParents path).2 := by
  unfold ensureParents
  cases hparent : path.parent? with
  | none =>
      exact AddsDirectories.refl _ files
  | some parent =>
      rcases Path.plainSteps_parent hparent with ⟨habsolute, hsteps, hne⟩
      apply (addsDirectories_ensureDirectories files parent).mono
      intro lead hlead
      have hprefix : lead.steps <+: path.plainSteps.dropLast := by
        have hsuffix := hlead.steps
        rw [hsteps] at hsuffix
        exact List.reverse_suffix.mp hsuffix
      refine ⟨hlead.isAbsolute.trans habsolute, hprefix.trans (List.dropLast_prefix _), ?_⟩
      have hpos : 0 < path.plainSteps.length := List.length_pos_iff.mpr hne
      have hle := hprefix.length_le
      rw [List.length_dropLast] at hle
      omega

theorem writeBytes_eq (files : Files) (path : Path) (content : ByteArray) :
    files.writeBytes path content =
      match files.ensureParents path with
      | (Except.error e, files) => (Except.error e, files)
      | (Except.ok (), files) =>
          match files.replaceFile path content with
          | Except.error e => (Except.error e, files)
          | Except.ok files => (Except.ok (), files) := by
  unfold writeBytes ensureParents
  cases path.parent? with
  | none =>
      rfl
  | some parent =>
      dsimp only
      rcases files.ensureDirectories parent with ⟨made, files'⟩
      cases made with
      | error e =>
          rfl
      | ok _ =>
          rfl

end Files
end Folio
