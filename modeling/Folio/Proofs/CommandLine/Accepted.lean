import Folio.Proofs.CommandLine.Reading

/-!
# Accepted arguments

Arguments are accepted exactly when they spell parameters that can stand together, no two
of which are rivals, with nothing behind the end of the options.  These parameters are
what is taken, in the order in which they are spelled.
-/

namespace Folio
namespace CommandLine
namespace Reading

/-!
# Rows of arguments
-/

theorem foldlM_cons_eq_ok_iff {argument : Text} {arguments : List Text} {reading last : Reading} :
    (argument :: arguments).foldlM readArgument reading = Except.ok last ↔
      exists next, reading.readArgument argument = Except.ok next ∧
        arguments.foldlM readArgument next = Except.ok last := by
  rw [List.foldlM_cons]
  cases reading.readArgument argument with
  | error refusal =>
      constructor
      · intro h
        cases h
      · rintro ⟨next, h, -⟩
        cases h
  | ok next =>
      constructor
      · intro h
        exact ⟨next, rfl, h⟩
      · rintro ⟨_, h, hrest⟩
        cases h
        exact hrest

def Leaves (reading : Reading) (arguments : List Text) (settled : Reading) : Prop :=
  exists last, arguments.foldlM readArgument reading = Except.ok last ∧
    last.settle = Except.ok settled

theorem leaves_of_spellsAll {arguments : List Text} {given : List Given}
    (h : SpellsAll arguments given) (reading : Reading) (htaken : Compatible reading.taken)
    (hall : Compatible (reading.given ++ given)) :
    reading.Leaves arguments (after (reading.given ++ given) none) := by
  induction h generalizing reading with
  | nil =>
      rw [List.append_nil] at hall ⊢
      exact ⟨reading, rfl, (settle_eq_ok_iff htaken).mpr ⟨hall, rfl⟩⟩
  | @closed argument arguments given others hargument _ ih =>
      rw [← List.append_assoc] at hall ⊢
      have hfirst := hall.left
      have hread := readArgument_of_spells hargument reading htaken hfirst
      rcases ih (after _ none) hfirst (by simpa using hall) with ⟨last, hlast, hsettle⟩
      exact ⟨last, foldlM_cons_eq_ok_iff.mpr ⟨_, hread, hlast⟩, by simpa using hsettle⟩
  | @opened argument value arguments given others p hargument hvalue _ ih =>
      rw [← List.append_assoc] at hall ⊢
      have hfirst := hall.left
      have hread := readArgument_of_spells hargument reading htaken hfirst
      have hfilled := readArgument_of_isValue hvalue (after (reading.given ++ given) (some p))
      rcases ih (filled _ p value) hfirst (by simpa using hall) with
        ⟨last, hlast, hsettle⟩
      have hrest := foldlM_cons_eq_ok_iff.mpr ⟨_, hfilled, hlast⟩
      exact ⟨last, foldlM_cons_eq_ok_iff.mpr ⟨_, hread, hrest⟩, by simpa using hsettle⟩

theorem not_compatible_open {p : Parameter} (h : p.takesValue = true) (taken : List Given) :
    ¬ Compatible (taken ++ [{ parameter := p, value := none }]) :=
  fun hall => (hall.takeable { parameter := p, value := none } (by simp)).value h rfl

/-- What is read to its end is spelled.  Two arguments are consumed when the former leaves
its parameter open, so the recursion is not on one argument at a time. -/
theorem spellsAll_of_leaves : forall (arguments : List Text) (reading : Reading)
    {settled : Reading},
    Compatible reading.taken -> (forall p, reading ≠ after reading.taken (some p)) ->
    reading.Leaves arguments settled ->
    exists given, SpellsAll arguments given ∧ reading.Takes given none settled
  | [], reading, settled, htaken, _, ⟨last, hlast, hsettle⟩ => by
      cases hlast
      rcases (settle_eq_ok_iff htaken).mp hsettle with ⟨hgiven, hsettled⟩
      refine ⟨[], SpellsAll.nil, ?_, ?_⟩
      · rwa [List.append_nil]
      · rwa [List.append_nil]
  | argument :: arguments, reading, settled, htaken, hfilled, ⟨last, hlast, hsettle⟩ => by
      rcases foldlM_cons_eq_ok_iff.mp hlast with ⟨next, hread, hrest⟩
      rcases readArgument_cases reading htaken hread with
        ⟨-, p, hopen, -⟩ | ⟨first, opened, hspells, hfirst, rfl⟩
      · exact absurd hopen (hfilled p)
      · cases opened with
        | none =>
            rcases spellsAll_of_leaves arguments (after _ none) hfirst
              (after_none_ne_after _ _) ⟨last, hrest, hsettle⟩ with
              ⟨others, hothers, hall, hsettled⟩
            rw [given_after_none, List.append_assoc] at hall hsettled
            exact ⟨first ++ others, SpellsAll.closed hspells hothers, hall, hsettled⟩
        | some p =>
            have hnot := not_compatible_open hspells.takesValue (reading.given ++ first)
            cases arguments with
            | nil =>
                cases hrest
                exact absurd ((settle_eq_ok_iff hfirst).mp hsettle).1 hnot
            | cons value arguments =>
                rcases foldlM_cons_eq_ok_iff.mp hrest with ⟨filled, hvalue, hrest⟩
                rcases readArgument_cases (after _ _) hfirst hvalue with
                  ⟨hisValue, q, hopen, rfl⟩ | ⟨second, _, _, hsecond, _⟩
                · cases congrArg waiting hopen
                  rcases spellsAll_of_leaves arguments (filled _ p value) hfirst
                    (fun q => filled_ne_after _ _ p q value) ⟨last, hrest, hsettle⟩ with
                    ⟨others, hothers, hall, hsettled⟩
                  rw [given_filled, List.append_assoc, List.append_assoc] at hall hsettled
                  exact ⟨_, SpellsAll.opened hspells hisValue hothers, hall, hsettled⟩
                · exact absurd hsecond.left hnot

end Reading

/-!
# Rows that go on
-/

theorem Spells.unique {argument : Text} {given given' : List Given}
    {opened opened' : Option Parameter} (h : Spells argument given opened)
    (h' : Spells argument given' opened') (hcompatible : Compatible given)
    (hcompatible' : Compatible given') : given = given' ∧ opened = opened' := by
  have hread := Reading.readArgument_of_spells h Reading.start Compatible.nil
    hcompatible
  have hread' := Reading.readArgument_of_spells h' Reading.start Compatible.nil
    hcompatible'
  rw [hread] at hread'
  injection hread' with hafter
  refine ⟨congrArg Reading.taken hafter, ?_⟩
  have hwaiting := congrArg Reading.waiting hafter
  have hinjective : Function.Injective fun p : Parameter =>
      ({ parameter := p, value := none } : Given) :=
    fun p q heq => congrArg Given.parameter heq
  exact Option.map_injective hinjective hwaiting

theorem SpellsAll.split {front rest : List Text} {given₁ given : List Given}
    (hfront : SpellsAll front given₁) (hcompatible₁ : Compatible given₁)
    (h : SpellsAll (front ++ rest) given) (hcompatible : Compatible given) :
    exists given₂, SpellsAll rest given₂ ∧ given = given₁ ++ given₂ := by
  induction hfront generalizing given with
  | nil =>
      exact ⟨given, h, rfl⟩
  | @closed argument front first others hargument _ ih =>
      rw [List.cons_append] at h
      generalize hwhole : front ++ rest = whole at h
      cases h with
      | @closed _ _ first' others' hargument' hrest =>
          rcases hargument.unique hargument' hcompatible₁.left hcompatible.left with ⟨rfl, -⟩
          rcases ih hcompatible₁.right (hwhole ▸ hrest) hcompatible.right with
            ⟨given₂, hgiven₂, rfl⟩
          exact ⟨given₂, hgiven₂, (List.append_assoc first others given₂).symm⟩
      | opened hargument' _ _ =>
          cases (hargument.unique hargument' hcompatible₁.left hcompatible.left).2
  | @opened argument value front first others p hargument _ _ ih =>
      rw [List.cons_append, List.cons_append] at h
      cases h with
      | closed hargument' _ =>
          cases (hargument.unique hargument' hcompatible₁.left hcompatible.left).2
      | opened hargument' _ hrest =>
          rcases hargument.unique hargument' hcompatible₁.left hcompatible.left with
            ⟨rfl, hopened⟩
          cases hopened
          rcases ih hcompatible₁.right.tail hrest hcompatible.right.tail with
            ⟨given₂, hgiven₂, rfl⟩
          exact ⟨given₂, hgiven₂, by rw [List.append_assoc, List.cons_append]⟩

/-!
# Rivals
-/

def NoRivals (given : List Given) : Prop :=
  forall p q, p ∈ given.map Given.parameter -> p.rival? = some q ->
    q ∉ given.map Given.parameter

theorem NoRivals.sublist {given others : List Given} (h : NoRivals given)
    (hsub : others.Sublist given) : NoRivals others := by
  have hmem := (hsub.map Given.parameter).subset
  intro p q hp hrival hq
  exact h p q (hmem hp) hrival (hmem hq)

namespace Reading

theorem rivals?_eq_none_iff {given : List Given} :
    (after given none).rivals? = none ↔ NoRivals given := by
  rw [rivals?, List.findSome?_eq_none_iff]
  constructor
  · intro h p q hp hrival hq
    rcases List.mem_map.mp hp with ⟨one, hone, rfl⟩
    have hnone := h one hone
    have hhas : (after given none).has q = true := has_eq_true_iff.mpr hq
    rw [hrival] at hnone
    simp [hhas] at hnone
  · intro h one hone
    cases hrival : one.parameter.rival? with
    | none =>
        rfl
    | some q =>
        have hq : (after given none).has q = false := by
          rw [← Bool.not_eq_true, has_eq_true_iff]
          exact h one.parameter q (List.mem_map_of_mem hone) hrival
        simp only [hq, Bool.false_eq_true, if_false]

theorem finish_eq_ok_iff {reading last : Reading} :
    reading.finish = Except.ok last ↔
      reading.settle = Except.ok last ∧ last.rivals? = none := by
  unfold finish
  constructor
  · intro h
    split at h
    · cases h
    · rename_i settled hsettle
      split at h
      · cases h
      · rename_i hrivals
        cases h
        exact ⟨hsettle, hrivals⟩
  · rintro ⟨hsettle, hrivals⟩
    rw [hsettle]
    simp only [hrivals]

end Reading

/-!
# Acceptance
-/

/-- Whether arguments are accepted with these parameters.  The end of the options may be
marked. -/
structure Accepted (arguments : List Text) (given : List Given) : Prop where
  spelled : exists options ending, arguments = options ++ ending ∧
    (ending = [] ∨ ending = [endOfOptions]) ∧ SpellsAll options given
  compatible : Compatible given
  noRivals : NoRivals given

theorem takeWhile_ne_endOfOptions {options ending : List Text} (h : endOfOptions ∉ options)
    (hending : ending = [] ∨ ending = [endOfOptions]) :
    (options ++ ending).takeWhile (fun argument => argument ≠ endOfOptions) = options := by
  have hall : forall argument, argument ∈ options ->
      decide (argument ≠ endOfOptions) = true := by
    intro argument hmem
    exact decide_eq_true fun heq => h (heq ▸ hmem)
  rw [List.takeWhile_append_of_pos hall]
  rcases hending with rfl | rfl
  · exact List.append_nil options
  · exact List.append_nil options

theorem dropWhile_ne_endOfOptions (arguments : List Text) :
    (arguments.dropWhile fun argument => argument ≠ endOfOptions) = [] ∨
      exists more, (arguments.dropWhile fun argument => argument ≠ endOfOptions) =
        endOfOptions :: more := by
  cases h : arguments.dropWhile fun argument => argument ≠ endOfOptions with
  | nil =>
      exact Or.inl rfl
  | cons argument more =>
      have hhead := List.head?_dropWhile_not (fun argument => decide (argument ≠ endOfOptions))
        arguments
      rw [h] at hhead
      have hargument : argument = endOfOptions := by
        simpa using hhead
      exact Or.inr ⟨more, by rw [hargument]⟩

theorem drop_past {front rest arguments : List Text} (h : front ++ rest = arguments) :
    arguments.drop (front.length + 1) = rest.tail := by
  rw [← h, ← List.tail_drop, List.drop_left]

/-- Reading accepts exactly the rows of arguments that spell parameters which can stand
together, and these are what it takes. -/
theorem readAll_eq_ok_iff {arguments : List Text} {last : Reading} :
    readAll arguments = Except.ok last ↔
      exists given, Accepted arguments given ∧ last = Reading.after given none := by
  unfold readAll
  dsimp only
  constructor
  · intro h
    split at h
    · cases h
    · rename_i reading hread
      split at h
      · cases h
      · rename_i hdrop
        rcases Reading.finish_eq_ok_iff.mp h with ⟨hsettle, hrivals⟩
        rcases Reading.spellsAll_of_leaves _ Reading.start Compatible.nil
          (Reading.after_none_ne_after _ _) ⟨reading, hread, hsettle⟩ with
          ⟨given, hspells, hcompatible, rfl⟩
        have hsplit : arguments.takeWhile (fun argument => argument ≠ endOfOptions) ++
            arguments.dropWhile (fun argument => argument ≠ endOfOptions) = arguments :=
          List.takeWhile_append_dropWhile
        refine ⟨given, ⟨⟨_, _, hsplit.symm, ?_, hspells⟩, hcompatible,
          Reading.rivals?_eq_none_iff.mp hrivals⟩, rfl⟩
        rcases dropWhile_ne_endOfOptions arguments with hnil | ⟨more, hmore⟩
        · exact Or.inl hnil
        · rw [drop_past hsplit, hmore] at hdrop
          rw [hmore, show more = [] from hdrop]
          exact Or.inr rfl
  · rintro ⟨given, ⟨⟨options, ending, rfl, hending, hspells⟩, hcompatible, hnoRivals⟩, rfl⟩
    rw [takeWhile_ne_endOfOptions hspells.endOfOptions_not_mem hending]
    rcases Reading.leaves_of_spellsAll hspells Reading.start Compatible.nil
      hcompatible with ⟨last, hlast, hsettle⟩
    have hdrop : (options ++ ending).drop (options.length + 1) = [] := by
      rw [drop_past rfl]
      rcases hending with rfl | rfl
      · rfl
      · rfl
    rw [hlast, hdrop]
    exact Reading.finish_eq_ok_iff.mpr ⟨hsettle, Reading.rivals?_eq_none_iff.mpr hnoRivals⟩

theorem Arguments.parse_eq_ok_iff {arguments : List Text} {parsed : Arguments} :
    Arguments.parse arguments = Except.ok parsed ↔
      exists given, Accepted arguments given ∧
        parsed = Arguments.ofReading (Reading.after given none) := by
  unfold Arguments.parse
  constructor
  · intro h
    cases hread : readAll arguments with
    | error refusal =>
        rw [hread] at h
        cases h
    | ok last =>
        rw [hread] at h
        rcases readAll_eq_ok_iff.mp hread with ⟨given, haccepted, rfl⟩
        cases h
        exact ⟨given, haccepted, rfl⟩
  · rintro ⟨given, haccepted, rfl⟩
    rw [readAll_eq_ok_iff.mpr ⟨given, haccepted, rfl⟩]
    rfl

end CommandLine
end Folio
