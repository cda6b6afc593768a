import Folio.Proofs.CommandLine.Spelling

/-!
# One step of reading

A step is described by the parameters given so far, those taken together with the open
one: an option adds the parameters that it spells, and a value fills the open one.
-/

namespace Folio
namespace CommandLine

/-!
# Names and values
-/

theorem Reading.splitValue_of_not_mem {body : Text} (h : '=' ∉ body) :
    Reading.splitValue body = (body, none) := by
  have hnone : body.dropWhile (fun c => c ≠ '=') = [] :=
    List.dropWhile_eq_nil_iff.mpr (Text.forall_ne_of_not_mem h)
  rw [splitValue, hnone]

theorem Reading.splitValue_equals {name : Text} (h : '=' ∉ name) (value : Text) :
    Reading.splitValue (name ++ '=' :: value) = (name, some value) := by
  rw [splitValue, Text.dropWhile_ne_append h, Text.takeWhile_ne_append h]

namespace Reading

/-!
# The parameters given so far
-/

def after (taken : List Given) (opened : Option Parameter) : Reading where
  taken := taken
  waiting := opened.map fun p => { parameter := p, value := none }

def filled (taken : List Given) (p : Parameter) (value : Text) : Reading where
  taken := taken
  waiting := some { parameter := p, value := some value }

def given (reading : Reading) : List Given :=
  reading.taken ++ reading.waiting.toList

@[simp] theorem given_after_none (taken : List Given) : (after taken none).given = taken :=
  List.append_nil taken

@[simp] theorem given_filled (taken : List Given) (p : Parameter) (value : Text) :
    (filled taken p value).given = taken ++ [{ parameter := p, value := some value }] :=
  rfl

theorem filled_ne_after (taken taken' : List Given) (p q : Parameter) (value : Text) :
    filled taken p value ≠ after taken' (some q) := by
  intro h
  cases congrArg waiting h

theorem after_none_ne_after (taken taken' : List Given) (q : Parameter) :
    after taken none ≠ after taken' (some q) := by
  intro h
  cases congrArg waiting h

@[simp] theorem takenParameters_after (taken : List Given) (opened : Option Parameter) :
    (after taken opened).takenParameters = taken.map Given.parameter :=
  rfl

theorem eq_after_none {reading : Reading} (h : reading.waiting = none) :
    reading = after reading.given none := by
  rcases reading with ⟨taken, waiting⟩
  cases h
  exact congrArg (fun taken => after taken none) (List.append_nil taken).symm

/-!
# Settling
-/

section Steps

variable {reading next : Reading} (htaken : Compatible reading.taken)

include htaken

theorem settle_eq_ok_iff :
    reading.settle = Except.ok next ↔
      Compatible reading.given ∧ next = after reading.given none := by
  rcases reading with ⟨taken, waiting⟩
  cases waiting with
  | none =>
      have hgiven : given { taken := taken, waiting := none } = taken := List.append_nil taken
      rw [hgiven]
      constructor
      · intro h
        injection h with h
        exact ⟨htaken, h.symm⟩
      · rintro ⟨-, rfl⟩
        rfl
  | some one =>
      exact take_eq_ok_iff_compatible htaken

theorem settleAndTake_eq_ok_iff {one : Given} :
    reading.settleAndTake one = Except.ok next ↔
      Compatible (reading.given ++ [one]) ∧ next = after (reading.given ++ [one]) none := by
  unfold settleAndTake
  constructor
  · intro h
    split at h
    · cases h
    · rename_i settled hsettle
      rcases (settle_eq_ok_iff htaken).mp hsettle with ⟨hgiven, rfl⟩
      exact (take_eq_ok_iff_compatible hgiven).mp h
  · rintro ⟨hall, rfl⟩
    have hgiven := hall.left
    rw [(settle_eq_ok_iff htaken).mpr ⟨hgiven, rfl⟩]
    exact (take_eq_ok_iff_compatible hgiven).mpr ⟨hall, rfl⟩

theorem await_eq_ok_iff {p : Parameter} :
    reading.await p = Except.ok next ↔
      Compatible reading.given ∧ next = after reading.given (some p) := by
  unfold await
  constructor
  · intro h
    split at h
    · cases h
    · rename_i settled hsettle
      rcases (settle_eq_ok_iff htaken).mp hsettle with ⟨hgiven, rfl⟩
      injection h with h
      exact ⟨hgiven, h.symm⟩
  · rintro ⟨hgiven, rfl⟩
    rw [(settle_eq_ok_iff htaken).mpr ⟨hgiven, rfl⟩]
    rfl

end Steps

/-!
# Options
-/

/-- What an option does: it opens a parameter behind those that it gives. -/
structure Takes (reading : Reading) (given : List Given) (opened : Option Parameter)
    (next : Reading) : Prop where
  compatible : Compatible (reading.given ++ given)
  next_eq : next = after (reading.given ++ given) opened

theorem readShort_of_spells {letters : Text} {given : List Given} {opened : Option Parameter}
    (h : SpellsLetters letters given opened) (reading : Reading)
    (htaken : Compatible reading.taken) (hready : letters ≠ [] ∨ reading.waiting = none)
    (hall : Compatible (reading.given ++ given)) :
    reading.readShort letters = Except.ok (after (reading.given ++ given) opened) := by
  induction h generalizing reading with
  | nil =>
      have hwaiting : reading.waiting = none := hready.resolve_left fun hne => hne rfl
      rw [List.append_nil, ← eq_after_none hwaiting]
      rfl
  | @flag p c letters others opened hletter hflag hrest ih =>
      rw [List.append_cons] at hall ⊢
      have hfirst := hall.left
      have htake := (settleAndTake_eq_ok_iff htaken).mpr ⟨hfirst, rfl⟩
      rw [readShort, Parameter.ofLetter?_of_letter hletter]
      simp only [hflag, Bool.false_eq_true, if_false, htake]
      simpa using ih (after _ none) hfirst (Or.inr rfl) (by simpa using hall)
  | equals value hletter hvalue =>
      rw [readShort, Parameter.ofLetter?_of_letter hletter]
      simp only [hvalue, if_true]
      exact (settleAndTake_eq_ok_iff htaken).mpr ⟨hall, rfl⟩
  | @attached p c d value hletter hvalue hd =>
      rw [readShort, Parameter.ofLetter?_of_letter hletter]
      simp only [hvalue, if_true]
      split
      · cases ‹d :: value = []›
      · rename_i heq
        exact absurd (List.head_eq_of_cons_eq heq) hd
      · exact (settleAndTake_eq_ok_iff htaken).mpr ⟨hall, rfl⟩
  | apart hletter hvalue =>
      rw [List.append_nil] at hall ⊢
      rw [readShort, Parameter.ofLetter?_of_letter hletter]
      simp only [hvalue, if_true]
      exact (await_eq_ok_iff htaken).mpr ⟨hall, rfl⟩

theorem spells_of_readShort {letters : Text} (reading : Reading) {next : Reading}
    (htaken : Compatible reading.taken) (hready : letters ≠ [] ∨ reading.waiting = none)
    (h : reading.readShort letters = Except.ok next) :
    exists given opened, SpellsLetters letters given opened ∧ reading.Takes given opened next := by
  induction letters generalizing reading with
  | nil =>
      have hwaiting : reading.waiting = none := hready.resolve_left fun hne => hne rfl
      have hgiven : reading.given = reading.taken := by
        rw [Reading.given, hwaiting]
        exact List.append_nil _
      injection h with h
      refine ⟨[], none, SpellsLetters.nil, ?_, ?_⟩
      · rw [List.append_nil, hgiven]
        exact htaken
      · rw [List.append_nil, ← eq_after_none hwaiting, h]
  | cons c letters ih =>
      rw [readShort] at h
      split at h
      · cases h
      · rename_i p hp
        have hletter := Parameter.letter_of_ofLetter? hp
        split at h
        · rename_i hvalue
          split at h
          · rcases (await_eq_ok_iff htaken).mp h with ⟨hgiven, rfl⟩
            refine ⟨[], some p, SpellsLetters.apart hletter hvalue, ?_, ?_⟩
            · rwa [List.append_nil]
            · rw [List.append_nil]
          · rename_i value
            rcases (settleAndTake_eq_ok_iff htaken).mp h with ⟨hgiven, rfl⟩
            exact ⟨_, none, SpellsLetters.equals value hletter hvalue, hgiven, rfl⟩
          · rename_i value hnil hequals
            rcases (settleAndTake_eq_ok_iff htaken).mp h with ⟨hgiven, rfl⟩
            cases letters with
            | nil =>
                exact absurd rfl hnil
            | cons d value =>
                have hd : d ≠ '=' := fun heq => hequals value (by rw [heq])
                exact ⟨_, none, SpellsLetters.attached value hletter hvalue hd, hgiven, rfl⟩
        · rename_i hvalue
          split at h
          · cases h
          · rename_i settled htake
            rcases (settleAndTake_eq_ok_iff htaken).mp htake with ⟨hfirst, rfl⟩
            rcases ih (after _ none) hfirst (Or.inr rfl) h with
              ⟨others, opened, hothers, hall, hnext⟩
            rw [given_after_none, List.append_assoc] at hall hnext
            exact ⟨_, opened, SpellsLetters.flag hletter (Bool.eq_false_iff.mpr hvalue) hothers,
              hall, hnext⟩

theorem spells_of_readLong {body : Text} {reading next : Reading}
    (htaken : Compatible reading.taken) (h : reading.readLong body = Except.ok next) :
    exists given opened, Spells ('-' :: '-' :: body) given opened ∧
      reading.Takes given opened next := by
  by_cases hmem : '=' ∈ body
  · rcases List.eq_append_cons_of_mem hmem with ⟨name, value, rfl, hname⟩
    simp only [readLong, splitValue_equals hname] at h
    split at h
    · cases h
    · rename_i p hp
      cases Parameter.name_of_ofName? hp
      split at h
      · rename_i hnone
        cases hnone
      · cases h
      · rename_i hflag
        have hvalue : p.takesValue = true := by
          cases hp : p.takesValue with
          | false =>
              exact (hflag value hp rfl).elim
          | true =>
              rfl
        rcases (settleAndTake_eq_ok_iff htaken).mp h with ⟨hall, rfl⟩
        exact ⟨_, none, Spells.equals value hvalue, hall, rfl⟩
  · simp only [readLong, splitValue_of_not_mem hmem] at h
    split at h
    · cases h
    · rename_i p hp
      cases Parameter.name_of_ofName? hp
      split at h
      · rename_i hvalue _
        rcases (await_eq_ok_iff htaken).mp h with ⟨hgiven, rfl⟩
        refine ⟨[], some p, Spells.apart hvalue, ?_, ?_⟩
        · rwa [List.append_nil]
        · rw [List.append_nil]
      · rename_i hsome
        cases hsome
      · rename_i hvalue _
        have hflag : p.takesValue = false := Bool.eq_false_iff.mpr fun heq => hvalue heq rfl
        rcases (settleAndTake_eq_ok_iff htaken).mp h with ⟨hall, rfl⟩
        exact ⟨_, none, Spells.flag hflag, hall, rfl⟩

/-!
# Arguments
-/

theorem readArgument_letters (reading : Reading) {c : Char} (letters : Text) (hc : c ≠ '-') :
    reading.readArgument ('-' :: c :: letters) = reading.readShort (c :: letters) := by
  unfold readArgument
  split
  · rename_i heq
    injection heq with _ heq
    exact absurd (List.head_eq_of_cons_eq heq) hc
  · rename_i heq
    cases heq
  · rename_i heq
    injection heq with _ heq
    rw [heq]
  · rename_i hdash
    exact absurd rfl (hdash (c :: letters))

theorem readArgument_of_spells {argument : Text} {given : List Given}
    {opened : Option Parameter} (h : Spells argument given opened) (reading : Reading)
    (htaken : Compatible reading.taken) (hall : Compatible (reading.given ++ given)) :
    reading.readArgument argument = Except.ok (after (reading.given ++ given) opened) := by
  cases h with
  | @flag p hflag =>
      have hname := splitValue_of_not_mem p.equals_not_mem_name
      change reading.readLong p.name = _
      simp only [readLong, hname, Parameter.ofName?_name, hflag]
      exact (settleAndTake_eq_ok_iff htaken).mpr ⟨hall, rfl⟩
  | @equals p value hvalue =>
      have hname := splitValue_equals p.equals_not_mem_name value
      change reading.readLong (p.name ++ '=' :: value) = _
      simp only [readLong, hname, Parameter.ofName?_name, hvalue]
      exact (settleAndTake_eq_ok_iff htaken).mpr ⟨hall, rfl⟩
  | @apart p hvalue =>
      have hname := splitValue_of_not_mem p.equals_not_mem_name
      rw [List.append_nil] at hall ⊢
      change reading.readLong p.name = _
      simp only [readLong, hname, Parameter.ofName?_name, hvalue]
      exact (await_eq_ok_iff htaken).mpr ⟨hall, rfl⟩
  | @letters letters _ _ hne hletters =>
      cases letters with
      | nil =>
          exact absurd rfl hne
      | cons c letters =>
          rcases hletters.letter with ⟨p, hp⟩
          rw [readArgument_letters reading letters (Parameter.letter_ne_dash hp)]
          exact readShort_of_spells hletters reading htaken (Or.inl hne) hall

theorem readArgument_of_isValue {argument : Text} (h : IsValue argument) (reading : Reading) :
    reading.readArgument argument = reading.readValue argument := by
  unfold readArgument
  split
  · rcases h with h | h
    · cases h
    · exact absurd rfl h
  · rfl
  · rename_i letters _ hdash
    rcases h with h | h
    · injection h with _ h
      exact absurd h hdash
    · exact absurd rfl h
  · rfl

theorem readValue_cases {argument : Text} {reading next : Reading}
    (h : reading.readValue argument = Except.ok next) :
    exists p, reading = after reading.taken (some p) ∧
      next = filled reading.taken p argument := by
  rcases reading with ⟨taken, waiting⟩
  unfold readValue at h
  split at h
  · rename_i p hwaiting
    injection h with h
    cases hwaiting
    exact ⟨p, rfl, h.symm⟩
  · cases h

theorem readArgument_cases {argument : Text} (reading : Reading) {next : Reading}
    (htaken : Compatible reading.taken) (h : reading.readArgument argument = Except.ok next) :
    (IsValue argument ∧ exists p, reading = after reading.taken (some p) ∧
      next = filled reading.taken p argument) ∨
      exists given opened, Spells argument given opened ∧ reading.Takes given opened next := by
  unfold readArgument at h
  split at h
  · exact Or.inr (spells_of_readLong htaken h)
  · exact Or.inl ⟨Or.inl rfl, readValue_cases h⟩
  · rename_i letters _ hdash
    have hne : letters ≠ [] := hdash
    rcases spells_of_readShort reading htaken (Or.inl hne) h with ⟨given, opened, hletters, htakes⟩
    exact Or.inr ⟨given, opened, Spells.letters hne hletters, htakes⟩
  · rename_i hdash
    refine Or.inl ⟨Or.inr ?_, readValue_cases h⟩
    intro hhead
    rcases List.head?_eq_some_iff.mp hhead with ⟨letters, hletters⟩
    exact hdash letters hletters

end Reading
end CommandLine
end Folio
