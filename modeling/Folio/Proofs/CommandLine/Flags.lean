import Folio.Proofs.CommandLine.Accepted

/-!
# Flags of verbosity

Three flags say how much of a run is shown.  Leaving them out of the arguments, whether
they stand alone or among other letters, or adding them between two options changes
nothing else that the arguments ask for.
-/

namespace Folio
namespace CommandLine

namespace Parameter

def verbosity : List Parameter :=
  [debug, quiet, trace]

theorem takesValue_of_verbosity {p : Parameter} (h : p ∈ verbosity) : p.takesValue = false := by
  revert h
  cases p <;> decide

def spellings (p : Parameter) : List Text :=
  p.option :: (p.letter?.map fun c => ['-', c]).toList

end Parameter

theorem spells_of_mem_spellings {p : Parameter} {argument : Text} (hp : p.takesValue = false)
    (h : argument ∈ p.spellings) :
    Spells argument [{ parameter := p, value := none }] none := by
  rcases List.mem_cons.mp h with rfl | h
  · exact Spells.flag hp
  · rcases Option.map_eq_some_iff.mp (Option.mem_toList.mp h) with ⟨c, hletter, rfl⟩
    exact Spells.letters (List.cons_ne_nil _ _) (SpellsLetters.flag hletter hp SpellsLetters.nil)

/-!
# Leaving flags out
-/

/-- Letters behind a dash without these flags.  Behind the letter of a parameter that takes
a value there are no further letters. -/
def leaveOutLetters (flags : List Parameter) : Text -> Text
  | [] => []
  | c :: letters =>
      match Parameter.ofLetter? c with
      | none => c :: letters
      | some p =>
          if p.takesValue then
            c :: letters
          else if p ∈ flags then
            leaveOutLetters flags letters
          else
            c :: leaveOutLetters flags letters

def leaveOutOf? (flags : List Parameter) (argument : Text) : Option Text :=
  match argument with
  | '-' :: '-' :: body =>
      match Parameter.ofName? body with
      | none => some argument
      | some p => if p ∈ flags then none else some argument
  | ['-'] => some argument
  | '-' :: letters =>
      match leaveOutLetters flags letters with
      | [] => none
      | kept => some ('-' :: kept)
  | _ => some argument

/-- The arguments without these flags. -/
def leaveOut (flags : List Parameter) (arguments : List Text) : List Text :=
  arguments.filterMap (leaveOutOf? flags)

def without (flags : List Parameter) (given : List Given) : List Given :=
  given.filter fun one => one.parameter ∉ flags

theorem without_append (flags : List Parameter) (given others : List Given) :
    without flags (given ++ others) = without flags given ++ without flags others :=
  List.filter_append given others

theorem without_cons {flags : List Parameter} {one : Given} (h : one.parameter ∉ flags)
    (given : List Given) : without flags (one :: given) = one :: without flags given :=
  List.filter_cons_of_pos (decide_eq_true h)

theorem leaveOutLetters_of_value (flags : List Parameter) {p : Parameter} {c : Char}
    (hletter : p.letter? = some c) (hvalue : p.takesValue = true) (letters : Text) :
    leaveOutLetters flags (c :: letters) = c :: letters := by
  rw [leaveOutLetters, Parameter.ofLetter?_of_letter hletter]
  simp only [hvalue, if_true]

theorem leaveOutOf?_long (flags : List Parameter) (body : Text) :
    leaveOutOf? flags ('-' :: '-' :: body) =
      match Parameter.ofName? body with
      | none => some ('-' :: '-' :: body)
      | some p => if p ∈ flags then none else some ('-' :: '-' :: body) :=
  rfl

theorem leaveOutOf?_option (flags : List Parameter) (p : Parameter) :
    leaveOutOf? flags p.option = if p ∈ flags then none else some p.option := by
  have hlong := leaveOutOf?_long flags p.name
  rw [Parameter.ofName?_name] at hlong
  exact hlong

theorem leaveOutOf?_equals (flags : List Parameter) (p : Parameter) (value : Text) :
    leaveOutOf? flags (p.option ++ '=' :: value) = some (p.option ++ '=' :: value) := by
  have hname : Parameter.ofName? (p.name ++ '=' :: value) = none := by
    cases h : Parameter.ofName? (p.name ++ '=' :: value) with
    | none =>
        rfl
    | some q =>
        have hmem : '=' ∈ q.name := by
          rw [Parameter.name_of_ofName? h]
          simp
        exact absurd hmem q.equals_not_mem_name
  have hlong := leaveOutOf?_long flags (p.name ++ '=' :: value)
  rw [hname] at hlong
  exact hlong

theorem leaveOutOf?_letters (flags : List Parameter) {c : Char} (letters : Text) (hc : c ≠ '-') :
    leaveOutOf? flags ('-' :: c :: letters) =
      match leaveOutLetters flags (c :: letters) with
      | [] => none
      | kept => some ('-' :: kept) := by
  unfold leaveOutOf?
  split
  · rename_i heq
    injection heq with _ heq
    exact absurd (List.head_eq_of_cons_eq heq) hc
  · rename_i heq
    cases heq
  · rename_i heq
    injection heq with _ heq
    rw [heq]
  · rename_i hdash
    exact absurd rfl (hdash (c :: letters))

theorem leaveOutOf?_of_isValue (flags : List Parameter) {value : Text} (h : IsValue value) :
    leaveOutOf? flags value = some value := by
  rcases h with rfl | h
  · rfl
  · unfold leaveOutOf?
    split
    · exact absurd rfl h
    · rfl
    · exact absurd rfl h
    · rfl

section Flags

variable {flags : List Parameter} (hflags : forall p, p ∈ flags -> p.takesValue = false)

include hflags

theorem not_mem_of_takesValue {p : Parameter} (h : p.takesValue = true) : p ∉ flags := by
  intro hp
  rw [hflags p hp] at h
  cases h

theorem SpellsLetters.leaveOut {letters : Text} {given : List Given}
    {opened : Option Parameter} (h : SpellsLetters letters given opened) :
    SpellsLetters (leaveOutLetters flags letters) (without flags given) opened := by
  induction h with
  | nil =>
      exact SpellsLetters.nil
  | @flag p c letters others opened hletter hflag _ ih =>
      rw [leaveOutLetters, Parameter.ofLetter?_of_letter hletter]
      simp only [hflag, Bool.false_eq_true, if_false]
      by_cases hp : p ∈ flags
      · simpa [hp, without] using ih
      · simpa [hp, without] using SpellsLetters.flag hletter hflag ih
  | equals value hletter hvalue =>
      rw [leaveOutLetters_of_value flags hletter hvalue,
        without_cons (not_mem_of_takesValue hflags hvalue)]
      exact SpellsLetters.equals value hletter hvalue
  | attached value hletter hvalue hd =>
      rw [leaveOutLetters_of_value flags hletter hvalue,
        without_cons (not_mem_of_takesValue hflags hvalue)]
      exact SpellsLetters.attached value hletter hvalue hd
  | apart hletter hvalue =>
      rw [leaveOutLetters_of_value flags hletter hvalue]
      exact SpellsLetters.apart hletter hvalue

theorem Spells.leaveOut {argument : Text} {given : List Given} {opened : Option Parameter}
    (h : Spells argument given opened) :
    (leaveOutOf? flags argument = none ∧ without flags given = [] ∧ opened = none) ∨
      exists kept, leaveOutOf? flags argument = some kept ∧
        Spells kept (without flags given) opened := by
  cases h with
  | @flag p hflag =>
      rw [leaveOutOf?_option]
      by_cases hp : p ∈ flags
      · exact Or.inl ⟨if_pos hp, by simp [without, hp], rfl⟩
      · rw [without_cons hp]
        exact Or.inr ⟨p.option, if_neg hp, Spells.flag hflag⟩
  | @equals p value hvalue =>
      rw [without_cons (not_mem_of_takesValue hflags hvalue)]
      exact Or.inr ⟨_, leaveOutOf?_equals flags p value, Spells.equals value hvalue⟩
  | @apart p hvalue =>
      rw [leaveOutOf?_option]
      exact Or.inr ⟨p.option, if_neg (not_mem_of_takesValue hflags hvalue), Spells.apart hvalue⟩
  | @letters letters _ _ hne hletters =>
      cases letters with
      | nil =>
          exact absurd rfl hne
      | cons c letters =>
          rcases hletters.letter with ⟨p, hp⟩
          have hkept := hletters.leaveOut hflags
          rw [leaveOutOf?_letters flags letters (Parameter.letter_ne_dash hp)]
          cases hleft : leaveOutLetters flags (c :: letters) with
          | nil =>
              rw [hleft] at hkept
              rcases hkept.eq_nil with ⟨hgiven, hopened⟩
              exact Or.inl ⟨rfl, hgiven, hopened⟩
          | cons d kept =>
              rw [hleft] at hkept
              exact Or.inr ⟨_, rfl, Spells.letters (List.cons_ne_nil d kept) hkept⟩

theorem SpellsAll.leaveOut {arguments : List Text} {given : List Given}
    (h : SpellsAll arguments given) :
    SpellsAll (leaveOut flags arguments) (without flags given) := by
  induction h with
  | nil =>
      exact SpellsAll.nil
  | @closed argument arguments given others hargument _ ih =>
      rw [without_append]
      rcases hargument.leaveOut hflags with ⟨hleft, hgiven, -⟩ | ⟨kept, hleft, hkept⟩
      · rw [CommandLine.leaveOut, List.filterMap_cons_none hleft, hgiven]
        exact ih
      · rw [CommandLine.leaveOut, List.filterMap_cons_some hleft]
        exact SpellsAll.closed hkept ih
  | @opened argument value arguments given others p hargument hvalue _ ih =>
      have hp := not_mem_of_takesValue hflags hargument.takesValue
      rw [without_append, without_cons hp]
      rcases hargument.leaveOut hflags with ⟨-, -, hopened⟩ | ⟨kept, hleft, hkept⟩
      · cases hopened
      · rw [CommandLine.leaveOut, List.filterMap_cons_some hleft,
          List.filterMap_cons_some (leaveOutOf?_of_isValue flags hvalue)]
        exact SpellsAll.opened hkept hvalue ih

theorem Accepted.leaveOut {arguments : List Text} {given : List Given}
    (h : Accepted arguments given) :
    Accepted (leaveOut flags arguments) (without flags given) := by
  have hsub : (without flags given).Sublist given := List.filter_sublist
  rcases h.spelled with ⟨options, ending, rfl, hending, hspells⟩
  constructor
  · refine ⟨CommandLine.leaveOut flags options, ending, ?_, hending, hspells.leaveOut hflags⟩
    rw [CommandLine.leaveOut, List.filterMap_append]
    rcases hending with rfl | rfl
    · rfl
    · rfl
  · exact h.compatible.sublist hsub
  · exact h.noRivals.sublist hsub

end Flags

/-!
# Adding a flag
-/

theorem Accepted.cut {front rest : List Text} {given₁ given : List Given}
    (hfront : Accepted front given₁) (hmark : endOfOptions ∉ front)
    (h : Accepted (front ++ rest) given) :
    SpellsAll front given₁ ∧ exists options ending given₂, rest = options ++ ending ∧
      (ending = [] ∨ ending = [endOfOptions]) ∧ SpellsAll options given₂ ∧
      given = given₁ ++ given₂ := by
  have hspells : SpellsAll front given₁ := by
    rcases hfront.spelled with ⟨options, ending, rfl, hending, hspells⟩
    rcases hending with rfl | rfl
    · rwa [List.append_nil]
    · simp at hmark
  refine ⟨hspells, ?_⟩
  rcases h.spelled with ⟨options, ending, hsplit, hending, hoptions⟩
  have hrest : exists options', options = front ++ options' ∧ rest = options' ++ ending := by
    rcases List.append_eq_append_iff.mp hsplit with ⟨more, hmore, hrest⟩ | ⟨more, hmore, hrest⟩
    · exact ⟨more, hmore, hrest⟩
    · -- What the front has beyond the options can only be the mark.
      rcases hending with rfl | rfl
      · rcases List.append_eq_nil_iff.mp hrest.symm with ⟨rfl, rfl⟩
        exact ⟨[], by simpa using hmore.symm, rfl⟩
      · cases more with
        | nil =>
            exact ⟨[], by simpa using hmore.symm, by simpa using hrest.symm⟩
        | cons argument more =>
            injection hrest with hargument _
            rw [hmore, ← hargument] at hmark
            simp at hmark
  rcases hrest with ⟨options', rfl, rfl⟩
  rcases hspells.split hfront.compatible hoptions h.compatible with ⟨given₂, hgiven₂, rfl⟩
  exact ⟨options', ending, given₂, rfl, hending, hgiven₂, rfl⟩

theorem Compatible.insert {given others : List Given} {one : Given}
    (h : Compatible (given ++ others)) (htakeable : one.Takeable)
    (hnew : one.parameter ∉ (given ++ others).map Given.parameter) :
    Compatible (given ++ one :: others) := by
  have hperm : (given ++ one :: others).Perm (one :: (given ++ others)) := List.perm_middle
  constructor
  · intro another hanother
    rcases List.mem_cons.mp (hperm.subset hanother) with rfl | hold
    · exact htakeable
    · exact h.takeable another hold
  · rw [(hperm.map Given.parameter).nodup_iff, List.map_cons]
    exact List.nodup_cons.mpr ⟨hnew, h.distinct⟩

theorem takeable_of_verbosity {p : Parameter} (h : p ∈ Parameter.verbosity) :
    Given.Takeable { parameter := p, value := none } where
  value := by
    intro hvalue
    rw [Parameter.takesValue_of_verbosity h] at hvalue
    cases hvalue
  help := by
    rintro rfl
    exact absurd h (by decide)
  version := by
    rintro rfl
    exact absurd h (by decide)
  filled := by
    intro hfilled
    cases hfilled

/-!
# What is asked for
-/

def Arguments.clear (flags : List Parameter) (arguments : Arguments) : Arguments :=
  { arguments with
    trace := arguments.trace && Parameter.trace ∉ flags
    debug := arguments.debug && Parameter.debug ∉ flags
    quiet := arguments.quiet && Parameter.quiet ∉ flags }

def Arguments.set (flag : Parameter) (arguments : Arguments) : Arguments :=
  { arguments with
    trace := arguments.trace || flag = Parameter.trace
    debug := arguments.debug || flag = Parameter.debug
    quiet := arguments.quiet || flag = Parameter.quiet }

namespace Reading

theorem has_without (flags : List Parameter) (given : List Given) (p : Parameter) :
    (after (without flags given) none).has p = ((after given none).has p && p ∉ flags) := by
  rw [Bool.eq_iff_iff, Bool.and_eq_true, has_eq_true_iff, has_eq_true_iff, decide_eq_true_iff,
    takenParameters_after, takenParameters_after]
  constructor
  · intro hp
    rcases List.mem_map.mp hp with ⟨one, hone, rfl⟩
    rcases List.mem_filter.mp hone with ⟨hone, hkept⟩
    exact ⟨List.mem_map_of_mem hone, of_decide_eq_true hkept⟩
  · rintro ⟨hp, hkept⟩
    rcases List.mem_map.mp hp with ⟨one, hone, rfl⟩
    exact List.mem_map_of_mem (List.mem_filter.mpr ⟨hone, decide_eq_true hkept⟩)

theorem value?_without {flags : List Parameter} (given : List Given) {p : Parameter}
    (hp : p ∉ flags) :
    (after (without flags given) none).value? p = (after given none).value? p := by
  have hsame : forall one : Given, decide (decide (one.parameter ∉ flags) = true ∧
      decide (one.parameter = p) = true) = decide (one.parameter = p) := by
    intro one
    rw [decide_eq_decide, decide_eq_true_iff, decide_eq_true_iff]
    constructor
    · rintro ⟨-, heq⟩
      exact heq
    · rintro rfl
      exact ⟨hp, rfl⟩
  unfold value? after without
  rw [List.find?_filter]
  simp only [hsame]

theorem has_append_cons (given others : List Given) (p q : Parameter) :
    (after (given ++ { parameter := p, value := none } :: others) none).has q =
      ((after (given ++ others) none).has q || p = q) := by
  unfold has after
  rw [List.any_append, List.any_cons, List.any_append]
  cases given.any fun one => decide (one.parameter = q) with
  | true =>
      rfl
  | false =>
      rw [Bool.false_or, Bool.false_or, Bool.or_comm]

theorem value?_append_cons (given others : List Given) {p q : Parameter} (h : p ≠ q) :
    (after (given ++ { parameter := p, value := none } :: others) none).value? q =
      (after (given ++ others) none).value? q := by
  unfold value? after
  rw [List.find?_append, List.find?_append, List.find?_cons_of_neg (by simpa using h)]

end Reading

namespace Arguments

theorem ofReading_of_values {reading others : Reading}
    (h : forall p : Parameter, p.takesValue = true -> reading.value? p = others.value? p) :
    ofReading reading =
      { ofReading others with
        trace := reading.has Parameter.trace
        debug := reading.has Parameter.debug
        quiet := reading.has Parameter.quiet } := by
  simp only [ofReading, h Parameter.config rfl, h Parameter.source rfl,
    h Parameter.template rfl, h Parameter.output rfl, h Parameter.title rfl]

theorem parse_leaveOut {flags : List Parameter}
    (hflags : forall p, p ∈ flags -> p ∈ Parameter.verbosity) {arguments : List Text}
    {parsed : Arguments} (h : parse arguments = Except.ok parsed) :
    parse (leaveOut flags arguments) = Except.ok (parsed.clear flags) := by
  have hno := fun p hp => Parameter.takesValue_of_verbosity (hflags p hp)
  rcases parse_eq_ok_iff.mp h with ⟨given, haccepted, rfl⟩
  refine parse_eq_ok_iff.mpr ⟨without flags given, haccepted.leaveOut hno, ?_⟩
  have hvalues := fun (p : Parameter) (hp : p.takesValue = true) =>
    Reading.value?_without given (not_mem_of_takesValue hno hp)
  rw [ofReading_of_values hvalues]
  simp only [Reading.has_without]
  rfl

theorem same_of_leaveOut {arguments others : List Text} {parsed asked : Arguments}
    (h : parse arguments = Except.ok parsed) (hothers : parse others = Except.ok asked)
    (hsame : leaveOut Parameter.verbosity others = leaveOut Parameter.verbosity arguments) :
    asked.config = parsed.config ∧ asked.overrides = parsed.overrides := by
  have hclear := parse_leaveOut (fun p hp => hp) h
  have hclearOther := parse_leaveOut (fun p hp => hp) hothers
  rw [hsame, hclear] at hclearOther
  injection hclearOther with heq
  exact ⟨(congrArg config heq).symm, (congrArg overrides heq).symm⟩

theorem ofReading_append_cons {p : Parameter} (hp : p ∈ Parameter.verbosity)
    (given others : List Given) :
    ofReading (Reading.after (given ++ { parameter := p, value := none } :: others) none) =
      (ofReading (Reading.after (given ++ others) none)).set p := by
  have hflag := Parameter.takesValue_of_verbosity hp
  have hne : forall q : Parameter, q.takesValue = true -> p ≠ q := by
    rintro q hq rfl
    rw [hflag] at hq
    cases hq
  have hvalues := fun (q : Parameter) (hq : q.takesValue = true) =>
    Reading.value?_append_cons given others (hne q hq)
  rw [ofReading_of_values hvalues]
  simp only [Reading.has_append_cons]
  rfl

theorem noRivals_iff {given : List Given} :
    NoRivals given ↔ ¬ ((ofReading (Reading.after given none)).debug = true ∧
      (ofReading (Reading.after given none)).quiet = true) := by
  have hdebug : (ofReading (Reading.after given none)).debug = true ↔
      Parameter.debug ∈ given.map Given.parameter := Reading.has_eq_true_iff
  have hquiet : (ofReading (Reading.after given none)).quiet = true ↔
      Parameter.quiet ∈ given.map Given.parameter := Reading.has_eq_true_iff
  rw [hdebug, hquiet]
  constructor
  · intro h hboth
    exact h Parameter.debug Parameter.quiet hboth.1 rfl hboth.2
  · intro h p q hp hrival hq
    cases p <;> cases hrival
    · exact h ⟨hp, hq⟩
    · exact h ⟨hq, hp⟩

theorem not_debug_and_quiet {arguments : List Text} {parsed : Arguments}
    (h : parse arguments = Except.ok parsed) :
    ¬ (parsed.debug = true ∧ parsed.quiet = true) := by
  rcases parse_eq_ok_iff.mp h with ⟨given, haccepted, rfl⟩
  exact noRivals_iff.mp haccepted.noRivals

theorem set_of_mem {given : List Given} {p : Parameter} (h : p ∈ given.map Given.parameter) :
    (ofReading (Reading.after given none)).set p = ofReading (Reading.after given none) := by
  have hhas : (Reading.after given none).has p = true := Reading.has_eq_true_iff.mpr h
  have hor : forall q, ((Reading.after given none).has q || decide (p = q)) =
      (Reading.after given none).has q := by
    intro q
    by_cases heq : p = q
    · rw [← heq, hhas, Bool.true_or]
    · rw [decide_eq_false heq, Bool.or_false]
  simp only [set, ofReading, hor]

/-- A flag of verbosity that is not set can be added between two options, in either
spelling, unless the flags that show more and less then stand together. -/
theorem parse_insert {front rest : List Text} {p : Parameter} {flag : Text}
    {before parsed : Arguments} (hp : p ∈ Parameter.verbosity) (hflag : flag ∈ p.spellings)
    (hfront : parse front = Except.ok before) (hmark : endOfOptions ∉ front)
    (h : parse (front ++ rest) = Except.ok parsed) (hnew : parsed.set p ≠ parsed)
    (hboth : ¬ ((parsed.set p).debug = true ∧ (parsed.set p).quiet = true)) :
    parse (front ++ flag :: rest) = Except.ok (parsed.set p) := by
  rcases parse_eq_ok_iff.mp hfront with ⟨given₁, hfront, -⟩
  rcases parse_eq_ok_iff.mp h with ⟨given, haccepted, rfl⟩
  rcases hfront.cut hmark haccepted with
    ⟨hspells, options, ending, given₂, rfl, hending, hoptions, rfl⟩
  have hset := ofReading_append_cons hp given₁ given₂
  have hadded := spells_of_mem_spellings (Parameter.takesValue_of_verbosity hp) hflag
  refine parse_eq_ok_iff.mpr ⟨given₁ ++ { parameter := p, value := none } :: given₂,
    ⟨⟨front ++ flag :: options, ending, by simp, hending, ?_⟩, ?_, ?_⟩, hset.symm⟩
  · exact hspells.append (SpellsAll.closed hadded hoptions)
  · exact haccepted.compatible.insert (takeable_of_verbosity hp)
      fun hmem => hnew (set_of_mem hmem)
  · rw [noRivals_iff, hset]
    exact hboth

end Arguments

end CommandLine
end Folio
