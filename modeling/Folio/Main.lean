import Folio.Command

/-!
# Program

The command on real files.
-/

namespace Folio

/-!
# Errors of the system
-/

def systemCode? : IO.Error -> Option UInt32
  | IO.Error.noFileOrDirectory _ code _ => some code
  | IO.Error.noSuchThing _ code _ => some code
  | IO.Error.alreadyExists _ code _ => some code
  | IO.Error.inappropriateType _ code _ => some code
  | IO.Error.invalidArgument _ code _ => some code
  | IO.Error.otherError code _ => some code
  | _ => none

/-- A code is given by itself or, by some functions, negated. -/
def plainCode (code : UInt32) : UInt32 :=
  if code < 0x80000000 then code else 0 - code

def FileError.ofSystem (e : IO.Error) : FileError :=
  match (systemCode? e).map plainCode with
  | some 2 => FileError.notFound
  | some 17 => FileError.alreadyExists
  | some 20 => FileError.notDirectory
  | some 21 => FileError.isDirectory
  | some 36 => FileError.nameTooLong
  | _ => FileError.other (toString e).toList

/-!
# Real files
-/

def readStored (path : Text) : IO (Except FileError Text) := do
  let stored <- (IO.FS.readBinFile (String.ofList path)).toBaseIO
  match stored with
  | Except.error e => pure (Except.error (FileError.ofSystem e))
  | Except.ok content =>
      match Text.ofBytes? content with
      | none => pure (Except.error FileError.notText)
      | some s => pure (Except.ok s)

def makeDirectory (path : Path) : IO (Except FileError Unit) := do
  let made <- (IO.FS.createDir (String.ofList path.toText)).toBaseIO
  pure (made.mapError FileError.ofSystem)

/-- Whether there is a directory: only then is there already one at the step that
stays in it. -/
def isRealDirectory (path : Path) : IO Bool := do
  let made <- makeDirectory { path with steps := path.steps ++ [Path.here] }
  pure (made matches Except.error FileError.alreadyExists)

def ensureRealDirectory (path : Path) : IO (Except FileError Unit) := do
  match <- makeDirectory path with
  | Except.ok () => pure (Except.ok ())
  | Except.error e =>
      if <- isRealDirectory path then
        pure (Except.ok ())
      else
        pure (Except.error e)

def ensureRealSteps (isAbsolute : Bool) : List Text -> IO (Except FileError Unit)
  | [] => pure (Except.ok ())
  | step :: outer => do
      let path : Path :=
        { isAbsolute := isAbsolute
          steps := (step :: outer).reverse
          slashes := 0 }
      match <- ensureRealDirectory path with
      | Except.error FileError.notFound =>
          match <- ensureRealSteps isAbsolute outer with
          | Except.error e => pure (Except.error e)
          | Except.ok () => ensureRealDirectory path
      | outcome => pure outcome

def writeStored (path content : Text) : IO (Except FileError Unit) := do
  let made <-
    match (Path.ofText path).parent? with
    | none => pure (Except.ok ())
    | some parent => ensureRealSteps parent.isAbsolute parent.plainSteps.reverse
  match made with
  | Except.error e => pure (Except.error e)
  | Except.ok () => do
      let written <-
        (IO.FS.writeBinFile (String.ofList path) (Text.bytes content)).toBaseIO
      pure (written.mapError FileError.ofSystem)

instance : FileStore IO where
  readText := readStored
  writeText := writeStored

instance : Highlighter :=
  Highlighter.wholeCode

end Folio

def main (arguments : List String) : IO UInt32 := do
  let report <- (Folio.Command.run (arguments.map String.toList) : IO Folio.Command.Report)
  let output <- IO.getStdout
  let errors <- IO.getStderr
  output.putStr (String.ofList report.output)
  output.flush
  errors.putStr (String.ofList report.errors)
  pure (UInt32.ofNat report.status)
