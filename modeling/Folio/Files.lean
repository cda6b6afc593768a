import Folio.Path
import Folio.Text.Bytes

/-!
# Files and directories

A state of the file system says at each location whether there is a file, with its
bytes, or a directory.  A path is followed from directory to directory; how far it
leads decides what can be done with it.
-/

namespace Folio

/-!
# Errors
-/

inductive FileError where
  | notFound
  | alreadyExists
  | notDirectory
  | isDirectory
  | nameTooLong
  | nulInName
  | notText
  | other (text : Text)
  deriving DecidableEq

namespace FileError

def message : FileError -> Text
  | notFound => "No such file or directory (os error 2)"
  | alreadyExists => "File exists (os error 17)"
  | notDirectory => "Not a directory (os error 20)"
  | isDirectory => "Is a directory (os error 21)"
  | nameTooLong => "File name too long (os error 36)"
  | nulInName => "file name contained an unexpected NUL byte"
  | notText => "stream did not contain valid UTF-8"
  | other text => text

end FileError

/-- The names that lead from a place up to the root, the innermost first. -/
abbrev Location := List Text

inductive FileNode where
  | file (content : ByteArray)
  | directory

structure Files where
  workingDirectory : Location
  nodes : List (Location × FileNode)

namespace Files

/-!
# Nodes
-/

def nodeAt? (location : Location) : List (Location × FileNode) -> Option FileNode
  | [] => none
  | (place, node) :: nodes =>
      if place = location then some node else nodeAt? location nodes

def find? (files : Files) : Location -> Option FileNode
  | [] => some FileNode.directory
  | name :: outer => nodeAt? (name :: outer) files.nodes

def without (files : Files) (location : Location) : List (Location × FileNode) :=
  files.nodes.filter fun entry => entry.1 ≠ location

def insert (files : Files) (location : Location) (node : FileNode) : Files :=
  { files with nodes := (location, node) :: files.without location }

theorem nodeAt?_without_of_ne (files : Files) {location other : Location}
    (hne : other ≠ location) :
    nodeAt? other (files.without location) = nodeAt? other files.nodes := by
  unfold without
  induction files.nodes with
  | nil =>
      rfl
  | cons entry nodes ih =>
      by_cases h : entry.1 = location
      · simpa [h, nodeAt?, Ne.symm hne] using ih
      · by_cases hother : entry.1 = other
        · simp [nodeAt?, hother, hne]
        · simpa [h, nodeAt?, hother] using ih

theorem find?_insert_self (files : Files) (name : Text) (outer : Location)
    (node : FileNode) :
    (files.insert (name :: outer) node).find? (name :: outer) = some node := by
  simp [find?, insert, nodeAt?]

theorem find?_insert_of_ne (files : Files) {location other : Location}
    (node : FileNode) (hne : other ≠ location) :
    (files.insert location node).find? other = files.find? other := by
  cases other with
  | nil =>
      rfl
  | cons name outer =>
      simp [find?, insert, nodeAt?, Ne.symm hne, nodeAt?_without_of_ne files hne]

/-!
# Following a path

Each step but the last has to lead to a directory.  The last one either leads to a
directory on the way, as the steps here and up do, or it is a name that need not
exist.
-/

def maxNameLength : Nat :=
  255

def maxPathLength : Nat :=
  4095

/-- What a path leads to. -/
inductive Target where
  | directory (location : Location)
  | entry (name : Text) (outer : Location)
  deriving DecidableEq

def entry? (files : Files) (name : Text) (outer : Location) :
    Except FileError (Option FileNode) :=
  if maxNameLength < Text.utf8Length name then
    Except.error FileError.nameTooLong
  else
    Except.ok (files.find? (name :: outer))

def enter (files : Files) (location : Location) (step : Text) : Except FileError Location :=
  if Path.stays step then
    Except.ok location
  else if step = Path.up then
    Except.ok location.tail
  else
    match files.entry? step location with
    | Except.error e => Except.error e
    | Except.ok none => Except.error FileError.notFound
    | Except.ok (some (FileNode.file _)) => Except.error FileError.notDirectory
    | Except.ok (some FileNode.directory) => Except.ok (step :: location)

def followFrom (files : Files) (location : Location) : List Text -> Except FileError Target
  | [] => Except.ok (Target.directory location)
  | [step] =>
      if Path.stays step then
        Except.ok (Target.directory location)
      else if step = Path.up then
        Except.ok (Target.directory location.tail)
      else
        Except.ok (Target.entry step location)
  | step :: next :: steps =>
      match files.enter location step with
      | Except.error e => Except.error e
      | Except.ok location => files.followFrom location (next :: steps)

def pathFault? (path : Path) : Option FileError :=
  if path.steps.any fun step => decide ('\x00' ∈ step) then
    some FileError.nulInName
  else if maxPathLength < path.length then
    some FileError.nameTooLong
  else
    none

def follow (files : Files) (path : Path) : Except FileError Target :=
  match pathFault? path with
  | some e => Except.error e
  | none =>
      if path.isEmpty then
        Except.error FileError.notFound
      else
        files.followFrom (if path.isAbsolute then [] else files.workingDirectory) path.steps

def isDirectory (files : Files) (path : Path) : Bool :=
  match files.follow path with
  | Except.ok (Target.directory _) => true
  | Except.ok (Target.entry name outer) =>
      match files.entry? name outer with
      | Except.ok (some FileNode.directory) => true
      | _ => false
  | Except.error _ => false

/-!
# Reading
-/

def readBytes (files : Files) (path : Path) : Except FileError ByteArray :=
  match files.follow path with
  | Except.error e => Except.error e
  | Except.ok (Target.directory _) => Except.error FileError.isDirectory
  | Except.ok (Target.entry name outer) =>
      match files.entry? name outer with
      | Except.error e => Except.error e
      | Except.ok none => Except.error FileError.notFound
      | Except.ok (some FileNode.directory) => Except.error FileError.isDirectory
      | Except.ok (some (FileNode.file content)) =>
          if path.asksDirectory then
            Except.error FileError.notDirectory
          else
            Except.ok content

def readText (files : Files) (path : Path) : Except FileError Text :=
  match files.readBytes path with
  | Except.error e => Except.error e
  | Except.ok content =>
      match Text.ofBytes? content with
      | none => Except.error FileError.notText
      | some s => Except.ok s

/-!
# Making directories
-/

def makeDirectory (files : Files) (path : Path) : Except FileError Files :=
  match files.follow path with
  | Except.error e => Except.error e
  | Except.ok (Target.directory _) => Except.error FileError.alreadyExists
  | Except.ok (Target.entry name outer) =>
      match files.entry? name outer with
      | Except.error e => Except.error e
      | Except.ok (some _) => Except.error FileError.alreadyExists
      | Except.ok none => Except.ok (files.insert (name :: outer) FileNode.directory)

/-- Makes a directory unless there is one; the state afterwards is given even when
that fails. -/
def ensureDirectory (files : Files) (path : Path) : Except FileError Unit × Files :=
  match files.makeDirectory path with
  | Except.ok files => (Except.ok (), files)
  | Except.error e =>
      if files.isDirectory path then
        (Except.ok (), files)
      else
        (Except.error e, files)

def ensureSteps (isAbsolute : Bool) : List Text -> Files -> Except FileError Unit × Files
  | [], files => (Except.ok (), files)
  | step :: outer, files =>
      let path : Path :=
        { isAbsolute := isAbsolute
          steps := (step :: outer).reverse
          slashes := 0 }
      match files.ensureDirectory path with
      | (Except.error FileError.notFound, files) =>
          match ensureSteps isAbsolute outer files with
          | (Except.error e, files) => (Except.error e, files)
          | (Except.ok (), files) => files.ensureDirectory path
      | outcome => outcome

def ensureDirectories (files : Files) (path : Path) : Except FileError Unit × Files :=
  match pathFault? path with
  | some e => (Except.error e, files)
  | none => ensureSteps path.isAbsolute path.plainSteps.reverse files

/-!
# Writing
-/

def replaceFile (files : Files) (path : Path) (content : ByteArray) : Except FileError Files :=
  match files.follow path with
  | Except.error e => Except.error e
  | Except.ok (Target.directory _) => Except.error FileError.isDirectory
  | Except.ok (Target.entry name outer) =>
      if path.asksDirectory then
        Except.error FileError.isDirectory
      else
        match files.entry? name outer with
        | Except.error e => Except.error e
        | Except.ok (some FileNode.directory) => Except.error FileError.isDirectory
        | Except.ok _ => Except.ok (files.insert (name :: outer) (FileNode.file content))

/-- Writes a file after making the directories on the way to it; those stay when the
file cannot be written. -/
def writeBytes (files : Files) (path : Path) (content : ByteArray) :
    Except FileError Unit × Files :=
  let (made, files) :=
    match path.parent? with
    | none => (Except.ok (), files)
    | some parent => files.ensureDirectories parent
  match made with
  | Except.error e => (Except.error e, files)
  | Except.ok () =>
      match files.replaceFile path content with
      | Except.error e => (Except.error e, files)
      | Except.ok files => (Except.ok (), files)

end Files
end Folio
