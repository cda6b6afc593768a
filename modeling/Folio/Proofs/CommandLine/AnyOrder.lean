import Mathlib.Data.List.Perm.Basic
import Folio.Proofs.CommandLine.Flags

/-!
# Options in any order

What is asked of a run can be written as options: each parameter once, in any of its
spellings, and one behind the other in any order.  The options are read back as what was
asked for.  No value is taken for an option or for a part of one, since a value stands
behind an equals sign or in an argument that begins with no dash.  Only the two flags that
are rivals are refused, wherever they stand.
-/

namespace Folio
namespace CommandLine

/-!
# What arguments give
-/

namespace Arguments

def value? (arguments : Arguments) : Parameter -> Option Text
  | Parameter.config => arguments.config
  | Parameter.source => arguments.overrides.source
  | Parameter.template => arguments.overrides.template
  | Parameter.output => arguments.overrides.output
  | Parameter.title => arguments.overrides.title
  | _ => none

def sets (arguments : Arguments) : Parameter -> Bool
  | Parameter.trace => arguments.trace
  | Parameter.debug => arguments.debug
  | Parameter.quiet => arguments.quiet
  | _ => false

/-- A parameter as arguments give it, if they do. -/
def given? (arguments : Arguments) (p : Parameter) : Option Given :=
  if p.takesValue then
    (arguments.value? p).map fun value => { parameter := p, value := some value }
  else if arguments.sets p then
    some { parameter := p, value := none }
  else
    none

def given (arguments : Arguments) : List Given :=
  Parameter.all.filterMap arguments.given?

/-- Whether no file has an empty name. -/
structure NamesFiles (arguments : Arguments) : Prop where
  config : arguments.config ≠ some []
  source : arguments.overrides.source ≠ some []
  template : arguments.overrides.template ≠ some []
  output : arguments.overrides.output ≠ some []

theorem given?_eq_some_iff {arguments : Arguments} {p : Parameter} {one : Given} :
    arguments.given? p = some one ↔
      (p.takesValue = true ∧ exists value, arguments.value? p = some value ∧
        { parameter := p, value := some value } = one) ∨
      (p.takesValue = false ∧ arguments.sets p = true ∧
        { parameter := p, value := none } = one) := by
  unfold given?
  cases p.takesValue with
  | true =>
      simp
  | false =>
      simp

theorem parameter_of_given? {arguments : Arguments} {p : Parameter} {one : Given}
    (h : arguments.given? p = some one) : one.parameter = p := by
  rcases given?_eq_some_iff.mp h with ⟨-, value, -, rfl⟩ | ⟨-, -, rfl⟩
  · rfl
  · rfl

theorem mem_given_iff {arguments : Arguments} {one : Given} :
    one ∈ arguments.given ↔ arguments.given? one.parameter = some one := by
  have hall : one.parameter ∈ Parameter.all := by
    cases one.parameter <;> decide
  rw [given, List.mem_filterMap]
  constructor
  · rintro ⟨p, -, hp⟩
    rw [parameter_of_given? hp]
    exact hp
  · intro h
    exact ⟨one.parameter, hall, h⟩

theorem nodup_given (arguments : Arguments) :
    (arguments.given.map Given.parameter).Nodup := by
  have hsame : (fun p => (arguments.given? p).map Given.parameter) =
      Option.guard fun p => (arguments.given? p).isSome := by
    funext p
    cases h : arguments.given? p with
    | none =>
        simp [Option.guard, h]
    | some one =>
        simp [Option.guard, h, parameter_of_given? h]
  have hall : Parameter.all.Nodup := by
    decide
  rw [given, List.map_filterMap, hsame, List.filterMap_eq_filter]
  exact hall.filter _

theorem NamesFiles.allowsEmpty {arguments : Arguments} (h : arguments.NamesFiles) {p : Parameter}
    (hempty : arguments.value? p = some []) : p.allowsEmpty = true := by
  cases p with
  | config =>
      exact absurd hempty h.config
  | source =>
      exact absurd hempty h.source
  | template =>
      exact absurd hempty h.template
  | output =>
      exact absurd hempty h.output
  | title =>
      rfl
  | trace | debug | quiet | help | version =>
      cases hempty

theorem NamesFiles.takeable {arguments : Arguments} (h : arguments.NamesFiles) {p : Parameter}
    {one : Given} (hp : arguments.given? p = some one) : one.Takeable := by
  rcases given?_eq_some_iff.mp hp with ⟨htakes, value, hvalue, rfl⟩ | ⟨htakes, hset, rfl⟩
  · constructor
    · intro _ hnone
      cases hnone
    · rintro rfl
      cases htakes
    · rintro rfl
      cases htakes
    · intro hempty
      exact h.allowsEmpty (hvalue.trans hempty)
  · constructor
    · intro hvalue
      rw [htakes] at hvalue
      cases hvalue
    · rintro rfl
      cases hset
    · rintro rfl
      cases hset
    · intro hempty
      cases hempty

end Arguments

/-!
# Reading what arguments give
-/

section Orders

variable {arguments : Arguments} {row : List Given} (hrow : row.Perm arguments.given)

include hrow

theorem find?_of_perm (p : Parameter) :
    row.find? (fun one => one.parameter = p) = arguments.given? p := by
  cases hfound : row.find? fun one => one.parameter = p with
  | none =>
      cases hgiven : arguments.given? p with
      | none =>
          rfl
      | some one =>
          have hp := Arguments.parameter_of_given? hgiven
          have hmem : one ∈ row := by
            rw [hrow.mem_iff, Arguments.mem_given_iff, hp]
            exact hgiven
          have hne := List.find?_eq_none.mp hfound one hmem
          simp [hp] at hne
  | some one =>
      have hmem := hrow.mem_iff.mp (List.mem_of_find?_eq_some hfound)
      have hp : one.parameter = p := by
        simpa using List.find?_some hfound
      rw [← hp]
      exact (Arguments.mem_given_iff.mp hmem).symm

theorem has_of_perm {p : Parameter} (hflag : p.takesValue = false) :
    (Reading.after row none).has p = arguments.sets p := by
  have hhas : (Reading.after row none).has p = (arguments.given? p).isSome := by
    rw [← find?_of_perm hrow p, Bool.eq_iff_iff, List.find?_isSome, Reading.has,
      List.any_eq_true]
    rfl
  rw [hhas, Arguments.given?, hflag]
  cases arguments.sets p with
  | true =>
      rfl
  | false =>
      rfl

theorem value?_of_perm {p : Parameter} (hvalue : p.takesValue = true) :
    (Reading.after row none).value? p = arguments.value? p := by
  have hfound : (Reading.after row none).value? p = (arguments.given? p).bind Given.value := by
    rw [← find?_of_perm hrow p]
    rfl
  rw [hfound, Arguments.given?, hvalue]
  cases arguments.value? p with
  | none =>
      rfl
  | some value =>
      rfl

theorem ofReading_of_perm : Arguments.ofReading (Reading.after row none) = arguments := by
  unfold Arguments.ofReading
  rw [value?_of_perm hrow rfl, value?_of_perm hrow rfl, value?_of_perm hrow rfl,
    value?_of_perm hrow rfl, value?_of_perm hrow rfl, has_of_perm hrow rfl,
    has_of_perm hrow rfl, has_of_perm hrow rfl]
  rfl

theorem compatible_of_perm (hfiles : arguments.NamesFiles) : Compatible row where
  takeable := by
    intro one hone
    exact hfiles.takeable (Arguments.mem_given_iff.mp (hrow.mem_iff.mp hone))
  distinct := (hrow.map Given.parameter).nodup_iff.mpr arguments.nodup_given

end Orders

/-!
# Options as they are written
-/

/-- The ways to write a parameter, as the row of its one or two arguments.  A value in an
argument of its own begins with no dash. -/
inductive Given.Written : Given -> List Text -> Prop where
  | equals {p : Parameter} (value : Text) (hvalue : p.takesValue = true) :
      Written { parameter := p, value := some value } [p.option ++ '=' :: value]
  | name {p : Parameter} {value : Text} (hvalue : p.takesValue = true)
      (hdash : value.head? ≠ some '-') :
      Written { parameter := p, value := some value } [p.option, value]
  | letter {p : Parameter} {c : Char} {value : Text} (hletter : p.letter? = some c)
      (hvalue : p.takesValue = true) (hdash : value.head? ≠ some '-') :
      Written { parameter := p, value := some value } [['-', c], value]
  | flag {p : Parameter} {argument : Text} (hflag : p.takesValue = false)
      (h : argument ∈ p.spellings) : Written { parameter := p, value := none } [argument]

theorem Given.Written.spellsAll {one : Given} {written : List Text} (h : one.Written written) :
    SpellsAll written [one] := by
  cases h with
  | equals value hvalue =>
      exact SpellsAll.closed (Spells.equals value hvalue) SpellsAll.nil
  | name hvalue hdash =>
      exact SpellsAll.opened (Spells.apart hvalue) (Or.inr hdash) SpellsAll.nil
  | letter hletter hvalue hdash =>
      have hoption := SpellsLetters.apart hletter hvalue
      exact SpellsAll.opened (Spells.letters (List.cons_ne_nil _ _) hoption) (Or.inr hdash)
        SpellsAll.nil
  | flag hflag h =>
      exact SpellsAll.closed (spells_of_mem_spellings hflag h) SpellsAll.nil

theorem spellsAll_flatten {row : List Given} {written : List (List Text)}
    (h : List.Forall₂ Given.Written row written) : SpellsAll written.flatten row := by
  induction h with
  | nil =>
      exact SpellsAll.nil
  | cons hone _ ih =>
      exact hone.spellsAll.append ih

/-!
# Rivals
-/

theorem Reading.conflict_of_rivals? {reading : Reading} {refusal : Refusal}
    (h : reading.rivals? = some refusal) :
    exists former latter used, former.rival? = some latter ∧
      refusal = Refusal.conflict former latter used := by
  rcases List.exists_of_findSome?_eq_some h with ⟨one, -, hone⟩
  split at hone
  · cases hone
  · rename_i latter hrival
    split at hone
    · injection hone with hone
      exact ⟨one.parameter, latter, _, hrival, hone.symm⟩
    · cases hone

theorem Reading.finish_of_rivals? {reading settled : Reading} {refusal : Refusal}
    (hsettle : reading.settle = Except.ok settled) (h : settled.rivals? = some refusal) :
    reading.finish = Except.error refusal := by
  unfold finish
  rw [hsettle]
  simp only [h]

theorem readAll_of_rivals {arguments : List Text} {row : List Given}
    (hspells : SpellsAll arguments row) (hcompatible : Compatible row)
    (hrivals : ¬ NoRivals row) :
    exists former latter used, former.rival? = some latter ∧
      readAll arguments = Except.error (Refusal.conflict former latter used) := by
  have hoptions : arguments.takeWhile (fun argument => argument ≠ endOfOptions) = arguments := by
    have htake := takeWhile_ne_endOfOptions hspells.endOfOptions_not_mem (Or.inl rfl)
    rwa [List.append_nil] at htake
  have hdrop : arguments.drop (arguments.length + 1) = [] :=
    List.drop_eq_nil_of_le (Nat.le_succ _)
  rcases Reading.leaves_of_spellsAll hspells Reading.start Compatible.nil hcompatible with
    ⟨last, hlast, hsettle⟩
  cases hrefused : (Reading.after row none).rivals? with
  | none =>
      exact absurd (Reading.rivals?_eq_none_iff.mp hrefused) hrivals
  | some refusal =>
      rcases Reading.conflict_of_rivals? hrefused with ⟨former, latter, used, hrival, rfl⟩
      refine ⟨former, latter, used, hrival, ?_⟩
      unfold readAll
      simp only [hoptions, hlast, hdrop]
      exact Reading.finish_of_rivals? hsettle hrefused

/-!
# Any order
-/

namespace Arguments

/-- Arguments that are written as options, each parameter once in one of its spellings, are
read back whatever the order of the options, unless they set both flags that are rivals.
These are refused in every order. -/
theorem parse_any_order {arguments : Arguments} (hfiles : arguments.NamesFiles)
    {written order : List (List Text)}
    (hwritten : List.Forall₂ Given.Written arguments.given written) (horder : order.Perm written) :
    (¬ (arguments.debug = true ∧ arguments.quiet = true) ->
      parse order.flatten = Except.ok arguments) ∧
    (arguments.debug = true -> arguments.quiet = true ->
      exists former latter used, former.rival? = some latter ∧
        parse order.flatten = Except.error (Refusal.conflict former latter used)) := by
  rcases List.perm_comp_forall₂ horder hwritten.flip with ⟨row, hrow, hperm⟩
  have hspells : SpellsAll order.flatten row := spellsAll_flatten hrow.flip
  have hcompatible := compatible_of_perm hperm hfiles
  have hasked := ofReading_of_perm hperm
  have hrivals : NoRivals row ↔ ¬ (arguments.debug = true ∧ arguments.quiet = true) := by
    rw [noRivals_iff, hasked]
  constructor
  · intro hboth
    refine parse_eq_ok_iff.mpr ⟨row, ⟨⟨order.flatten, [], ?_, Or.inl rfl, hspells⟩, hcompatible,
      hrivals.mpr hboth⟩, hasked.symm⟩
    rw [List.append_nil]
  · intro hdebug hquiet
    have hnot : ¬ NoRivals row := fun hno => hrivals.mp hno ⟨hdebug, hquiet⟩
    rcases readAll_of_rivals hspells hcompatible hnot with ⟨former, latter, used, hrival, hread⟩
    refine ⟨former, latter, used, hrival, ?_⟩
    rw [parse, hread]
    rfl

/-- The title reads like an option, and another value holds an equals sign. -/
theorem parse_any_order_of_title_like_option :
    let overrides : Overrides :=
      { source := some "a=b.md", template := none, output := none, title := some "--quiet" }
    let arguments : Arguments :=
      { config := none, overrides := overrides, trace := true, debug := true, quiet := false }
    let both : Arguments := { arguments with quiet := true }
    let written : List (List Text) := [["-s", "a=b.md"], ["--title=--quiet"], ["--trace"], ["-g"]]
    let order : List (List Text) := [["-g"], ["--title=--quiet"], ["-s", "a=b.md"], ["--trace"]]
    arguments.NamesFiles ∧ List.Forall₂ Given.Written arguments.given written ∧
      order.Perm written ∧ ¬ (arguments.debug = true ∧ arguments.quiet = true) ∧
      parse order.flatten = Except.ok arguments ∧
      List.Forall₂ Given.Written both.given (written ++ [["-q".toList]]) ∧
      (["-q".toList] :: order).Perm (written ++ [["-q".toList]]) ∧
      exists former latter used, former.rival? = some latter ∧
        parse (["-q".toList] :: order).flatten =
          Except.error (Refusal.conflict former latter used) := by
  intro overrides arguments both written order
  have hfiles : arguments.NamesFiles := ⟨by decide, by decide, by decide, by decide⟩
  have hfilesBoth : both.NamesFiles := ⟨by decide, by decide, by decide, by decide⟩
  have hsource : Given.Written { parameter := Parameter.source, value := some "a=b.md".toList }
      ["-s".toList, "a=b.md".toList] := Given.Written.letter rfl rfl (by decide)
  have htitle : Given.Written { parameter := Parameter.title, value := some "--quiet".toList }
      ["--title=--quiet".toList] := Given.Written.equals _ rfl
  have htrace : Given.Written { parameter := Parameter.trace, value := none }
      ["--trace".toList] := Given.Written.flag rfl (by decide)
  have hdebug : Given.Written { parameter := Parameter.debug, value := none } ["-g".toList] :=
    Given.Written.flag rfl (by decide)
  have hquiet : Given.Written { parameter := Parameter.quiet, value := none } ["-q".toList] :=
    Given.Written.flag rfl (by decide)
  have hwritten : List.Forall₂ Given.Written arguments.given written :=
    .cons hsource (.cons htitle (.cons htrace (.cons hdebug .nil)))
  have hwrittenBoth : List.Forall₂ Given.Written both.given (written ++ [["-q".toList]]) :=
    .cons hsource (.cons htitle (.cons htrace (.cons hdebug (.cons hquiet .nil))))
  have horder : order.Perm written := by decide
  have horderBoth : (["-q".toList] :: order).Perm (written ++ [["-q".toList]]) := by decide
  have hone : ¬ (arguments.debug = true ∧ arguments.quiet = true) := by decide
  exact ⟨hfiles, hwritten, horder, hone, (parse_any_order hfiles hwritten horder).1 hone,
    hwrittenBoth, horderBoth, (parse_any_order hfilesBoth hwrittenBoth horderBoth).2 rfl rfl⟩

end Arguments

end CommandLine
end Folio
