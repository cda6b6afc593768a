import Folio.Files
import Folio.Log

/-!
# Jobs

A job reads and writes files, keeps a log and can fail.  It works wherever files
are kept: on a state of the file system that is a value, or on a real one.
-/

namespace Folio

/-!
# Failures
-/

inductive BuildError where
  | reading (path : Text) (cause : FileError)
  | writing (path : Text) (cause : FileError)
  | conversion (text : Text)
  | settings (text : Text)
  deriving DecidableEq

namespace BuildError

def cause? : BuildError -> Option FileError
  | reading _ cause => some cause
  | writing _ cause => some cause
  | conversion _ => none
  | settings _ => none

def message : BuildError -> Text
  | reading path cause => "Failed to read " ++ path ++ ": " ++ cause.message
  | writing path cause => "Failed to write " ++ path ++ ": " ++ cause.message
  | conversion text => "Markdown conversion error: " ++ text
  | settings text => "Configuration error: " ++ text

end BuildError

/-!
# Where files are kept
-/

class FileStore (m : Type -> Type) where
  readText : Text -> m (Except FileError Text)
  writeText : Text -> Text -> m (Except FileError Unit)

instance : FileStore (StateM Files) where
  readText path files := (files.readText (Path.ofText path), files)
  writeText path content files :=
    files.writeBytes (Path.ofText path) (Text.bytes content)

/-!
# Jobs
-/

/-- The log grows at its end. -/
abbrev Job (m : Type -> Type) :=
  ExceptT BuildError (StateT (List Log.Record) m)

namespace Job

variable {m : Type -> Type} [Monad m]

def record (made : List Log.Record) : Job m Unit :=
  modify fun records => records ++ made

def note (level : Log.Level) (origin text : Text) : Job m Unit :=
  record [{ level := level, origin := origin, text := text }]

def fail (e : BuildError) : Job m α :=
  throw e

def readText [FileStore m] (path : Text) : Job m Text := do
  match <- (FileStore.readText path : m _) with
  | Except.ok content => pure content
  | Except.error cause => throw (BuildError.reading path cause)

def writeText [FileStore m] (path content : Text) : Job m Unit := do
  match <- (FileStore.writeText path content : m _) with
  | Except.ok () => pure ()
  | Except.error cause => throw (BuildError.writing path cause)

end Job

/-!
# Outcomes
-/

/-- What a job gives, the records it made and the files afterwards. -/
structure Outcome (α : Type) where
  result : Except BuildError α
  records : List Log.Record
  files : Files

def Job.outcome (job : Job (StateM Files) α) (files : Files) : Outcome α :=
  let ((result, records), files) := (job.run.run []).run files
  { result := result
    records := records
    files := files }

end Folio
