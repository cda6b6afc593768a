import Folio.Job

/-!
# Jobs on a state of the file system

A job does the same to the files whatever is in the log before it.  How it ends is
put together from how its steps end.
-/

namespace Folio
namespace Job

variable {α β : Type}

/-- Whether a job on the given files ends with a result and with other files. -/
def Ends (job : Job (StateM Files) α) (files : Files) (result : Except BuildError α)
    (files' : Files) : Prop :=
  forall records, exists records',
    (job.run.run records).run files = ((result, records'), files')

theorem Ends.outcome {job : Job (StateM Files) α} {files files' : Files}
    {result : Except BuildError α} (h : job.Ends files result files') :
    (job.outcome files).result = result ∧ (job.outcome files).files = files' := by
  rcases h [] with ⟨records, hrun⟩
  rw [Job.outcome, hrun]
  exact ⟨rfl, rfl⟩

theorem Ends.bind {job : Job (StateM Files) α} {next : α -> Job (StateM Files) β}
    {files files' files'' : Files} {a : α} {result : Except BuildError β}
    (hjob : job.Ends files (Except.ok a) files') (hnext : (next a).Ends files' result files'') :
    (job >>= next).Ends files result files'' := by
  intro records
  rcases hjob records with ⟨made, hmade⟩
  rcases hnext made with ⟨more, hmore⟩
  refine ⟨more, ?_⟩
  rw [ExceptT.run_bind, StateT.run_bind, StateT.run_bind, hmade]
  exact hmore

theorem Ends.bind_error {job : Job (StateM Files) α} {next : α -> Job (StateM Files) β}
    {files files' : Files} {e : BuildError} (hjob : job.Ends files (Except.error e) files') :
    (job >>= next).Ends files (Except.error e) files' := by
  intro records
  rcases hjob records with ⟨made, hmade⟩
  refine ⟨made, ?_⟩
  rw [ExceptT.run_bind, StateT.run_bind, StateT.run_bind, hmade]
  rfl

/-!
# Single steps
-/

theorem ends_pure (a : α) (files : Files) :
    Ends (pure a : Job (StateM Files) α) files (Except.ok a) files := by
  intro records
  exact ⟨records, rfl⟩

theorem ends_fail (e : BuildError) (files : Files) :
    Ends (fail e : Job (StateM Files) α) files (Except.error e) files := by
  intro records
  exact ⟨records, rfl⟩

theorem ends_record (made : List Log.Record) (files : Files) :
    Ends (record made) files (Except.ok ()) files := by
  intro records
  exact ⟨records ++ made, rfl⟩

theorem ends_note (level : Log.Level) (origin text : Text) (files : Files) :
    Ends (note level origin text) files (Except.ok ()) files :=
  ends_record _ files

theorem ends_lift (action : StateM Files α) (files : Files) :
    Ends (liftM action) files (Except.ok (action.run files).1) (action.run files).2 := by
  intro records
  exact ⟨records, rfl⟩

theorem ends_readText {path content : Text} {files : Files}
    (h : files.readText (Path.ofText path) = Except.ok content) :
    Ends (readText path) files (Except.ok content) files := by
  have hread : (FileStore.readText path : StateM Files _).run files =
      (Except.ok content, files) := by
    rw [← h]
    rfl
  apply Ends.bind (ends_lift (FileStore.readText path) files)
  rw [hread]
  exact ends_pure content files

theorem ends_readText_error {path : Text} {files : Files} {cause : FileError}
    (h : files.readText (Path.ofText path) = Except.error cause) :
    Ends (readText path) files (Except.error (BuildError.reading path cause)) files := by
  have hread : (FileStore.readText path : StateM Files _).run files =
      (Except.error cause, files) := by
    rw [← h]
    rfl
  apply Ends.bind (ends_lift (FileStore.readText path) files)
  rw [hread]
  exact ends_fail _ files

theorem ends_writeText {path content : Text} {files files' : Files}
    (h : files.writeBytes (Path.ofText path) (Text.bytes content) = (Except.ok (), files')) :
    Ends (writeText path content) files (Except.ok ()) files' := by
  have hwrite : (FileStore.writeText path content : StateM Files _).run files =
      (Except.ok (), files') := by
    rw [← h]
    rfl
  apply Ends.bind (ends_lift (FileStore.writeText path content) files)
  rw [hwrite]
  exact ends_pure () files'

theorem ends_writeText_error {path content : Text} {files files' : Files} {cause : FileError}
    (h : files.writeBytes (Path.ofText path) (Text.bytes content) =
      (Except.error cause, files')) :
    Ends (writeText path content) files (Except.error (BuildError.writing path cause)) files' := by
  have hwrite : (FileStore.writeText path content : StateM Files _).run files =
      (Except.error cause, files') := by
    rw [← h]
    rfl
  apply Ends.bind (ends_lift (FileStore.writeText path content) files)
  rw [hwrite]
  exact ends_fail _ files'

end Job
end Folio
