import Mathlib.Data.List.Nodup
import Folio.CommandLine
import Folio.Proofs.Text.Tag

/-!
# How parameters are spelled

A parameter is spelled by its name behind two dashes or by its letter behind one, and its
value stands behind an equals sign, behind the letter, or in an argument of its own.
Reading takes exactly the rows of arguments that spell parameters which can stand
together, and it takes the parameters in the order in which they are spelled.
-/

namespace Folio
namespace CommandLine

namespace Parameter

/-!
# Names and letters
-/

theorem ofName?_name (p : Parameter) : ofName? p.name = some p := by
  cases p <;> rfl

theorem name_of_ofName? {s : Text} {p : Parameter} (h : ofName? s = some p) : p.name = s := by
  simpa using List.find?_some h

theorem equals_not_mem_name (p : Parameter) : '=' ∉ p.name := by
  cases p <;> decide

theorem letter_of_ofLetter? {c : Char} {p : Parameter} (h : ofLetter? c = some p) :
    p.letter? = some c := by
  simpa using List.find?_some h

theorem ofLetter?_of_letter {c : Char} {p : Parameter} (h : p.letter? = some c) :
    ofLetter? c = some p := by
  cases p <;> cases h <;> rfl

theorem letter_ne_dash {c : Char} {p : Parameter} (h : p.letter? = some c) : c ≠ '-' := by
  cases p <;> cases h <;> decide

end Parameter

/-!
# Spellings
-/

/-- The letters behind a dash, with the parameters that they give and the one whose value is
the next argument. -/
inductive SpellsLetters : Text -> List Given -> Option Parameter -> Prop where
  | nil : SpellsLetters [] [] none
  | flag {p : Parameter} {c : Char} {letters : Text} {given : List Given}
      {opened : Option Parameter} (hletter : p.letter? = some c) (hflag : p.takesValue = false)
      (hrest : SpellsLetters letters given opened) :
      SpellsLetters (c :: letters) ({ parameter := p, value := none } :: given) opened
  | equals {p : Parameter} {c : Char} (value : Text) (hletter : p.letter? = some c)
      (hvalue : p.takesValue = true) :
      SpellsLetters (c :: '=' :: value) [{ parameter := p, value := some value }] none
  | attached {p : Parameter} {c d : Char} (value : Text) (hletter : p.letter? = some c)
      (hvalue : p.takesValue = true) (hd : d ≠ '=') :
      SpellsLetters (c :: d :: value) [{ parameter := p, value := some (d :: value) }] none
  | apart {p : Parameter} {c : Char} (hletter : p.letter? = some c)
      (hvalue : p.takesValue = true) : SpellsLetters [c] [] (some p)

/-- An argument that is an option, with the parameters that it gives and the one whose value
is the next argument. -/
inductive Spells : Text -> List Given -> Option Parameter -> Prop where
  | flag {p : Parameter} (hflag : p.takesValue = false) :
      Spells p.option [{ parameter := p, value := none }] none
  | equals {p : Parameter} (value : Text) (hvalue : p.takesValue = true) :
      Spells (p.option ++ '=' :: value) [{ parameter := p, value := some value }] none
  | apart {p : Parameter} (hvalue : p.takesValue = true) : Spells p.option [] (some p)
  | letters {letters : Text} {given : List Given} {opened : Option Parameter}
      (hne : letters ≠ []) (hletters : SpellsLetters letters given opened) :
      Spells ('-' :: letters) given opened

def IsValue (argument : Text) : Prop :=
  argument = ['-'] ∨ argument.head? ≠ some '-'

/-- A row of arguments with the parameters that it gives, in their order. -/
inductive SpellsAll : List Text -> List Given -> Prop where
  | nil : SpellsAll [] []
  | closed {argument : Text} {arguments : List Text} {given others : List Given}
      (hargument : Spells argument given none) (harguments : SpellsAll arguments others) :
      SpellsAll (argument :: arguments) (given ++ others)
  | opened {argument value : Text} {arguments : List Text} {given others : List Given}
      {p : Parameter} (hargument : Spells argument given (some p)) (hvalue : IsValue value)
      (harguments : SpellsAll arguments others) :
      SpellsAll (argument :: value :: arguments)
        (given ++ { parameter := p, value := some value } :: others)

theorem SpellsAll.append {arguments arguments' : List Text} {given given' : List Given}
    (h : SpellsAll arguments given) (h' : SpellsAll arguments' given') :
    SpellsAll (arguments ++ arguments') (given ++ given') := by
  induction h with
  | nil =>
      exact h'
  | closed hargument _ ih =>
      rw [List.append_assoc]
      exact SpellsAll.closed hargument ih
  | opened hargument hvalue _ ih =>
      rw [List.append_assoc]
      exact SpellsAll.opened hargument hvalue ih

theorem SpellsLetters.takesValue {letters : Text} {given : List Given}
    {opened : Option Parameter} (h : SpellsLetters letters given opened) :
    forall p, p ∈ opened -> p.takesValue = true := by
  induction h with
  | nil =>
      intro p hp
      cases hp
  | flag _ _ _ ih =>
      exact ih
  | equals _ _ _ =>
      intro p hp
      cases hp
  | attached _ _ _ _ =>
      intro p hp
      cases hp
  | apart _ hvalue =>
      intro p hp
      cases hp
      exact hvalue

theorem Spells.takesValue {argument : Text} {given : List Given} {p : Parameter}
    (h : Spells argument given (some p)) : p.takesValue = true := by
  cases h with
  | apart hvalue =>
      exact hvalue
  | letters _ hletters =>
      exact hletters.takesValue p rfl

theorem SpellsLetters.eq_nil {given : List Given} {opened : Option Parameter}
    (h : SpellsLetters [] given opened) : given = [] ∧ opened = none := by
  cases h
  exact ⟨rfl, rfl⟩

theorem SpellsLetters.letter {c : Char} {letters : Text} {given : List Given}
    {opened : Option Parameter} (h : SpellsLetters (c :: letters) given opened) :
    exists p : Parameter, p.letter? = some c := by
  cases h with
  | flag hletter _ _ =>
      exact ⟨_, hletter⟩
  | equals _ hletter _ =>
      exact ⟨_, hletter⟩
  | attached _ hletter _ _ =>
      exact ⟨_, hletter⟩
  | apart hletter _ =>
      exact ⟨_, hletter⟩

theorem Spells.ne_endOfOptions {argument : Text} {given : List Given}
    {opened : Option Parameter} (h : Spells argument given opened) :
    argument ≠ endOfOptions := by
  cases h with
  | @flag p _ =>
      cases p <;> decide
  | @equals p value _ =>
      cases p <;> exact fun h => by cases h
  | @apart p _ =>
      cases p <;> decide
  | @letters letters _ _ _ hletters =>
      intro heq
      have hdash : letters = ['-'] := List.tail_eq_of_cons_eq heq
      rw [hdash] at hletters
      rcases hletters.letter with ⟨p, hp⟩
      exact Parameter.letter_ne_dash hp rfl

theorem IsValue.ne_endOfOptions {value : Text} (h : IsValue value) : value ≠ endOfOptions := by
  rintro rfl
  rcases h with h | h
  · exact absurd h (by decide)
  · exact h rfl

theorem SpellsAll.endOfOptions_not_mem {arguments : List Text} {given : List Given}
    (h : SpellsAll arguments given) : endOfOptions ∉ arguments := by
  induction h with
  | nil =>
      exact List.not_mem_nil
  | closed hargument _ ih =>
      exact List.not_mem_cons_of_ne_of_not_mem hargument.ne_endOfOptions.symm ih
  | opened hargument hvalue _ ih =>
      exact List.not_mem_cons_of_ne_of_not_mem hargument.ne_endOfOptions.symm
        (List.not_mem_cons_of_ne_of_not_mem hvalue.ne_endOfOptions.symm ih)

/-!
# Parameters that can stand together
-/

structure Given.Takeable (given : Given) : Prop where
  value : given.parameter.takesValue = true -> given.value ≠ none
  help : given.parameter ≠ Parameter.help
  version : given.parameter ≠ Parameter.version
  filled : given.value = some [] -> given.parameter.allowsEmpty = true

structure Compatible (given : List Given) : Prop where
  takeable : forall one, one ∈ given -> one.Takeable
  distinct : (given.map Given.parameter).Nodup

theorem Compatible.nil : Compatible [] where
  takeable := by
    intro one h
    cases h
  distinct := List.nodup_nil

theorem Compatible.sublist {given others : List Given} (h : Compatible given)
    (hsub : others.Sublist given) : Compatible others where
  takeable := fun one hone => h.takeable one (hsub.subset hone)
  distinct := h.distinct.sublist (hsub.map Given.parameter)

theorem Compatible.left {given others : List Given} (h : Compatible (given ++ others)) :
    Compatible given :=
  h.sublist (List.sublist_append_left given others)

theorem Compatible.right {given others : List Given} (h : Compatible (given ++ others)) :
    Compatible others :=
  h.sublist (List.sublist_append_right given others)

theorem Compatible.tail {one : Given} {given : List Given} (h : Compatible (one :: given)) :
    Compatible given :=
  h.sublist (List.sublist_cons_self one given)

namespace Reading

theorem has_eq_true_iff {reading : Reading} {p : Parameter} :
    reading.has p = true ↔ p ∈ reading.takenParameters := by
  simp [has, takenParameters]

theorem take_eq_ok_iff {reading next : Reading} {given : Given} :
    reading.take given = Except.ok next ↔
      given.Takeable ∧ reading.has given.parameter = false ∧
        next = { reading with taken := reading.taken ++ [given] } := by
  unfold take
  dsimp only
  constructor
  · intro h
    split at h
    · cases h
    · rename_i hvalue
      split at h
      · cases h
      · rename_i hhelp
        split at h
        · cases h
        · rename_i hversion
          split at h
          · cases h
          · rename_i hnew
            split at h
            · cases h
            · rename_i hfilled
              injection h with h
              refine ⟨⟨fun htakes hnone => hvalue ⟨htakes, hnone⟩, hhelp, hversion, ?_⟩,
                Bool.eq_false_iff.mpr hnew, h.symm⟩
              intro hempty
              by_contra hdenied
              exact hfilled ⟨hempty, by simpa using hdenied⟩
  · rintro ⟨htakeable, hnew, rfl⟩
    have hvalue : ¬ (given.parameter.takesValue = true ∧ given.value = none) :=
      fun h => htakeable.value h.1 h.2
    have hfilled : ¬ (given.value = some [] ∧ (!given.parameter.allowsEmpty) = true) := by
      rintro ⟨hempty, hdenied⟩
      rw [htakeable.filled hempty] at hdenied
      cases hdenied
    rw [if_neg hvalue, if_neg htakeable.help, if_neg htakeable.version, hnew,
      if_neg Bool.false_ne_true, if_neg hfilled]

theorem take_eq_ok_iff_compatible {taken : List Given} {waiting : Option Given} {given : Given}
    {next : Reading} (h : Compatible taken) :
    Reading.take { taken := taken, waiting := waiting } given = Except.ok next ↔
      Compatible (taken ++ [given]) ∧
        next = { taken := taken ++ [given], waiting := waiting } := by
  have hnew : Reading.has { taken := taken, waiting := waiting } given.parameter = false ↔
      given.parameter ∉ taken.map Given.parameter := by
    rw [← Bool.not_eq_true, has_eq_true_iff]
    rfl
  rw [take_eq_ok_iff, hnew, ← and_assoc]
  refine and_congr_left fun _ => ?_
  constructor
  · rintro ⟨htakeable, hnot⟩
    constructor
    · intro one hone
      rcases List.mem_append.mp hone with hold | hlast
      · exact h.takeable one hold
      · rw [List.mem_singleton.mp hlast]
        exact htakeable
    · rw [List.map_append, List.map_singleton]
      exact List.Nodup.append h.distinct (List.nodup_singleton _)
        (List.disjoint_singleton.mpr hnot)
  · intro hall
    refine ⟨hall.takeable given (by simp), ?_⟩
    have hdistinct := hall.distinct
    rw [List.map_append, List.map_singleton] at hdistinct
    exact List.disjoint_singleton.mp (List.disjoint_of_nodup_append hdistinct)

end Reading

end CommandLine
end Folio
