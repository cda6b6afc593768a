import Folio.Command
import Folio.Proofs.CommandLine.Flags

/-!
# Runs of the command

What a run does to the files, the records that it makes and its status depend on the
configuration and the values that the arguments give, and on nothing else.  The flags of
verbosity choose which of the records are shown.
-/

namespace Folio

/-!
# Levels
-/

namespace Log

def lines (records : List Record) : Text :=
  (records.map Record.line).flatten

theorem shown_debug (records : List Record) : shown Level.debug records = lines records := by
  have hall : records.filter (Record.isShown Level.debug) = records :=
    List.filter_eq_self.mpr fun record _ => decide_eq_true (Nat.zero_le _)
  rw [shown, hall]
  rfl

theorem shown_info (records : List Record) :
    shown Level.info records = lines (records.filter fun record => record.level ≠ Level.debug) := by
  have hsame : Record.isShown Level.info = fun record => decide (record.level ≠ Level.debug) := by
    funext record
    rw [Record.isShown, decide_eq_decide]
    cases record.level <;> decide
  rw [shown, hsame]
  rfl

theorem shown_error (records : List Record) :
    shown Level.error records = lines (records.filter fun record => record.level = Level.error) := by
  have hsame : Record.isShown Level.error = fun record => decide (record.level = Level.error) := by
    funext record
    rw [Record.isShown, decide_eq_decide]
    cases record.level <;> decide
  rw [shown, hsame]
  rfl

end Log

namespace Command

open CommandLine (Arguments Parameter endOfOptions leaveOut)

/-!
# What is shown
-/

theorem shown_of_parse {arguments : List Text} {parsed : Arguments}
    (h : Arguments.parse arguments = Except.ok parsed) (records : List Log.Record) :
    (parsed.debug = true -> Log.shown parsed.threshold records = Log.lines records) ∧
      (parsed.quiet = true -> Log.shown parsed.threshold records =
        Log.lines (records.filter fun record => record.level = Log.Level.error)) ∧
      (parsed.debug = false -> parsed.quiet = false ->
        Log.shown parsed.threshold records =
          Log.lines (records.filter fun record => record.level ≠ Log.Level.debug)) := by
  refine ⟨?_, ?_, ?_⟩
  · intro hdebug
    rw [Arguments.threshold, hdebug]
    exact Log.shown_debug records
  · intro hquiet
    have hdebug : parsed.debug = false :=
      Bool.eq_false_iff.mpr fun hdebug => Arguments.not_debug_and_quiet h ⟨hdebug, hquiet⟩
    rw [Arguments.threshold, hdebug, hquiet]
    exact Log.shown_error records
  · intro hdebug hquiet
    rw [Arguments.threshold, hdebug, hquiet]
    exact Log.shown_info records

/-!
# Runs on a state of the files
-/

variable [Highlighter]

def outcome (arguments : Arguments) (files : Files) : Outcome Unit :=
  Job.outcome (job arguments) files

def log (arguments : Arguments) (files : Files) : List Log.Record :=
  completeLog (outcome arguments files).result (outcome arguments files).records

theorem run_of_parse {arguments : List Text} {parsed : Arguments}
    (h : Arguments.parse arguments = Except.ok parsed) (files : Files) :
    (run arguments : StateM Files Report).run files =
      ({ status := statusOf (outcome parsed files).result
         output := Log.shown parsed.threshold (log parsed files)
         errors := [] },
        (outcome parsed files).files) := by
  unfold run
  rw [h]
  rfl

theorem outcome_congr {parsed asked : Arguments} (hconfig : asked.config = parsed.config)
    (hoverrides : asked.overrides = parsed.overrides) (files : Files) :
    outcome asked files = outcome parsed files := by
  unfold outcome job
  rw [hconfig, hoverrides]

/-!
# Equal requests
-/

/-- The flags of verbosity only filter the log.  Leaving some out of accepted arguments, or
adding one, gives accepted arguments, and whatever is accepted and the same without these
flags asks for the same configuration and values.  All arguments that do so give runs with
one status, one state of the files and one log, of which they show what their flags say. -/
theorem run_filters_log {arguments : List Text} {parsed : Arguments}
    (h : Arguments.parse arguments = Except.ok parsed) :
    (forall flags, (forall p, p ∈ flags -> p ∈ Parameter.verbosity) ->
      Arguments.parse (leaveOut flags arguments) = Except.ok (parsed.clear flags)) ∧
    (forall front rest p flag before, arguments = front ++ rest -> endOfOptions ∉ front ->
      Arguments.parse front = Except.ok before -> p ∈ Parameter.verbosity ->
      flag ∈ p.spellings -> parsed.set p ≠ parsed ->
      ¬ ((parsed.set p).debug = true ∧ (parsed.set p).quiet = true) ->
      Arguments.parse (front ++ flag :: rest) = Except.ok (parsed.set p)) ∧
    (forall others asked, Arguments.parse others = Except.ok asked ->
      leaveOut Parameter.verbosity others = leaveOut Parameter.verbosity arguments ->
      asked.config = parsed.config ∧ asked.overrides = parsed.overrides) ∧
    forall others asked files, Arguments.parse others = Except.ok asked ->
      asked.config = parsed.config -> asked.overrides = parsed.overrides ->
      let ran := (run arguments : StateM Files Report).run files
      let ranOther := (run others : StateM Files Report).run files
      let records := log parsed files
      ranOther.2 = ran.2 ∧ ranOther.1.status = ran.1.status ∧
        ranOther.1.errors = ran.1.errors ∧
        (asked.debug = true -> ranOther.1.output = Log.lines records) ∧
        (asked.quiet = true -> ranOther.1.output =
          Log.lines (records.filter fun record => record.level = Log.Level.error)) ∧
        (asked.debug = false -> asked.quiet = false -> ranOther.1.output =
          Log.lines (records.filter fun record => record.level ≠ Log.Level.debug)) := by
  refine ⟨?_, ?_, ?_, ?_⟩
  · intro flags hflags
    exact Arguments.parse_leaveOut hflags h
  · intro front rest p flag before hsplit hmark hfront hp hflag hnew hboth
    rw [hsplit] at h
    exact Arguments.parse_insert hp hflag hfront hmark h hnew hboth
  · intro others asked hothers hsame
    exact Arguments.same_of_leaveOut h hothers hsame
  · intro others asked files hothers hconfig hoverrides ran ranOther records
    have hran : ran = _ := run_of_parse h files
    have hother : ranOther = _ := run_of_parse hothers files
    have hsame := outcome_congr hconfig hoverrides files
    have hlog : log asked files = records := by
      unfold log
      rw [hsame]
      rfl
    rw [hlog, hsame] at hother
    rw [hran, hother]
    exact ⟨rfl, rfl, rfl, shown_of_parse hothers records⟩

omit [Highlighter] in
theorem run_filters_log_of_letters :
    let _ : Highlighter := Highlighter.wholeCode
    let arguments : List Text := ["-gs", "a.md"]
    let others : List Text := ["-qs", "a.md"]
    let overrides : Overrides :=
      { source := some "a.md", template := none, output := none, title := none }
    let parsed : Arguments :=
      { config := none, overrides := overrides, trace := false, debug := true, quiet := false }
    let asked : Arguments := { parsed with debug := false, quiet := true }
    let files : Files := { workingDirectory := [], nodes := [] }
    Arguments.parse arguments = Except.ok parsed ∧
      leaveOut [Parameter.debug] arguments = ["-s".toList, "a.md".toList] ∧
      Arguments.parse (leaveOut [Parameter.debug] arguments) =
        Except.ok (parsed.clear [Parameter.debug]) ∧
      Arguments.parse (arguments ++ ["--trace".toList]) =
        Except.ok (parsed.set Parameter.trace) ∧
      Arguments.parse others = Except.ok asked ∧
      leaveOut Parameter.verbosity others = leaveOut Parameter.verbosity arguments ∧
      ((run others : StateM Files Report).run files).2 =
        ((run arguments : StateM Files Report).run files).2 ∧
      ((run others : StateM Files Report).run files).1.status =
        ((run arguments : StateM Files Report).run files).1.status ∧
      ((run others : StateM Files Report).run files).1.output =
        Log.lines ((log parsed files).filter fun record => record.level = Log.Level.error) := by
  intro _ arguments others overrides parsed asked files
  have hparsed : Arguments.parse arguments = Except.ok parsed := by
    rfl
  have hasked : Arguments.parse others = Except.ok asked := by
    rfl
  have hsame : leaveOut Parameter.verbosity others = leaveOut Parameter.verbosity arguments := by
    rfl
  rcases run_filters_log hparsed with ⟨hless, hmore, hrest, hruns⟩
  rcases hrest others asked hasked hsame with ⟨hconfig, hoverrides⟩
  rcases hruns others asked files hasked hconfig hoverrides with
    ⟨hfiles, hstatus, -, -, hquiet, -⟩
  refine ⟨hparsed, rfl, ?_, ?_, hasked, hsame, hfiles, hstatus, hquiet rfl⟩
  · exact hless [Parameter.debug] (by decide)
  · exact hmore arguments [] Parameter.trace _ parsed rfl (by decide) hparsed (by decide)
      (by decide) (by decide) (by decide)

end Command
end Folio
