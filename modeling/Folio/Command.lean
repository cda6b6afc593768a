import Folio.Build
import Folio.CommandLine
import Folio.Settings.Loading

/-!
# The command

A run of the command loads the settings and builds the page that they describe.  The
log goes to the standard output, and a failure is its last record.
-/

namespace Folio
namespace Command

open CommandLine (Arguments Refusal)

structure Report where
  status : Nat
  output : Text
  errors : Text
  deriving DecidableEq

/-!
# Statuses
-/

def success : Nat :=
  0

def buildFailure : Nat :=
  1

def usageFailure : Nat :=
  2

/-!
# Runs
-/

def origin : Text :=
  "syntaxdoc::cli"

variable {m : Type -> Type} [Monad m] [FileStore m] [Highlighter]

def job (arguments : Arguments) : Job m Unit := do
  let settings <- Settings.load arguments.config arguments.overrides
  Job.note Log.Level.info origin
    ("Converting " ++ settings.source ++ " with extensions [" ++
      Text.join ", " (settings.extensions.map Extension.name) ++ "]")
  let _ <- settings.build settings.converter
  pure ()

def completeLog (result : Except BuildError Unit) (records : List Log.Record) :
    List Log.Record :=
  match result with
  | Except.ok () => records
  | Except.error e =>
      records ++
        [{ level := Log.Level.error
           origin := origin
           text := "Build failed: " ++ e.message }]

def statusOf : Except BuildError Unit -> Nat
  | Except.ok () => success
  | Except.error _ => buildFailure

def reportRun (threshold : Log.Level) (result : Except BuildError Unit)
    (records : List Log.Record) : Report where
  status := statusOf result
  output := Log.shown threshold (completeLog result records)
  errors := []

def reportRefusal (refusal : Refusal) : Report :=
  if refusal.isWanted then
    { status := success, output := refusal.message, errors := [] }
  else
    { status := usageFailure, output := [], errors := refusal.message }

def run (arguments : List Text) : m Report :=
  match Arguments.parse arguments with
  | Except.error refusal => pure (reportRefusal refusal)
  | Except.ok arguments => do
      let (result, records) <- (job arguments : Job m Unit).run.run []
      pure (reportRun arguments.threshold result records)

end Command
end Folio
