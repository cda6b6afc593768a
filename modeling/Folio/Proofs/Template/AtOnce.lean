import Mathlib.Data.List.Infix
import Folio.Proofs.Text.Replace
import Folio.Template

/-!
# Filling a template at once

The placeholders of a template are filled one after the other, and each pass
reads what the passes before it have written.  Where every placeholder of the
template stands apart from its neighbours, the three passes come to filling all
placeholders at once, each with its value as the later passes leave it.
-/

namespace Folio
namespace Template

/-!
# Placeholders
-/

inductive Placeholder where
  | content
  | title
  | toc
  deriving DecidableEq

namespace Placeholder

def text : Placeholder -> Text
  | content => contentPlaceholder
  | title => titlePlaceholder
  | toc => tocPlaceholder

def all : List Placeholder :=
  [content, title, toc]

def front? (s : Text) : Option Placeholder :=
  all.find? fun p => Text.startsWith p.text s

def isLetter (c : Char) : Bool :=
  all.any fun p => decide (c ∈ p.text)

theorem mem_all (p : Placeholder) : p ∈ all := by
  cases p <;> decide

theorem isLetter_of_mem {p : Placeholder} {c : Char} (h : c ∈ p.text) : isLetter c = true := by
  apply List.any_eq_true.mpr
  exact ⟨p, mem_all p, decide_eq_true h⟩

theorem text_ne_nil (p : Placeholder) : p.text ≠ [] := by
  cases p <;> decide

theorem eq_of_text_begins {p q : Placeholder} (h : p.text <+: q.text) : p = q := by
  revert h
  cases p <;> cases q <;> decide

theorem not_text_infix_of_ne {p q : Placeholder} (h : p ≠ q) : ¬ p.text <:+: q.text := by
  revert h
  cases p <;> cases q <;> decide

theorem front?_eq_none_iff {s : Text} :
    front? s = none ↔ forall p : Placeholder, ¬ p.text <+: s := by
  constructor
  · intro h p hprefix
    have hnot := List.find?_eq_none.mp h p (mem_all p)
    exact hnot (Text.startsWith_iff.mpr hprefix)
  · intro h
    apply List.find?_eq_none.mpr
    intro p _ hstarts
    exact h p (Text.startsWith_iff.mp hstarts)

theorem front?_eq_some_iff {s : Text} {p : Placeholder} : front? s = some p ↔ p.text <+: s := by
  have hsound : forall q : Placeholder, front? s = some q -> q.text <+: s := by
    intro q h
    have hstarts := List.find?_some h
    exact Text.startsWith_iff.mp hstarts
  constructor
  · exact hsound p
  · intro hprefix
    cases hfront : front? s with
    | none =>
        exact absurd hprefix (front?_eq_none_iff.mp hfront p)
    | some q =>
        rcases List.prefix_or_prefix_of_prefix (hsound q hfront) hprefix with h | h
        · rw [eq_of_text_begins h]
        · rw [eq_of_text_begins h]

theorem front?_of_not_letter {c : Char} (h : isLetter c = false) (s : Text) :
    front? (c :: s) = none := by
  apply front?_eq_none_iff.mpr
  rintro p ⟨rest, hrest⟩
  cases htext : p.text with
  | nil =>
      exact text_ne_nil p htext
  | cons d more =>
      rw [htext] at hrest
      injection hrest with hd _
      have hletter : isLetter d = true := isLetter_of_mem (p := p) (by simp [htext])
      rw [hd, h] at hletter
      cases hletter

end Placeholder

open Placeholder

/-!
# Filling at once

A template is read from left to right, as one character or one placeholder after
the other.
-/

/-- The template with `value p` in place of every placeholder `p`. -/
def fillAtOnce (value : Placeholder -> Text) : Text -> Text
  | [] => []
  | c :: s =>
      match front? (c :: s) with
      | some p => value p ++ fillAtOnce value (s.drop (p.text.length - 1))
      | none => c :: fillAtOnce value s
termination_by s => s.length
decreasing_by
  · rw [List.length_drop, List.length_cons]
    omega
  · rw [List.length_cons]
    omega

section Steps

variable (value : Placeholder -> Text)

theorem fillAtOnce_nil : fillAtOnce value [] = [] := by
  rw [fillAtOnce]

theorem fillAtOnce_cons {c : Char} {s : Text} (h : front? (c :: s) = none) :
    fillAtOnce value (c :: s) = c :: fillAtOnce value s := by
  rw [fillAtOnce, h]

theorem fillAtOnce_placeholder (p : Placeholder) (s : Text) :
    fillAtOnce value (p.text ++ s) = value p ++ fillAtOnce value s := by
  have hfront : front? (p.text ++ s) = some p := front?_eq_some_iff.mpr (List.prefix_append _ _)
  cases htext : p.text with
  | nil =>
      exact absurd htext (text_ne_nil p)
  | cons c more =>
      rw [htext, List.cons_append] at hfront
      rw [List.cons_append, fillAtOnce, hfront]
      simp [htext]

end Steps

theorem template_induction {motive : Text -> Prop} (template : Text) (nil : motive [])
    (placeholder : forall (p : Placeholder) (s : Text), motive s -> motive (p.text ++ s))
    (char : forall (c : Char) (s : Text), front? (c :: s) = none -> motive s -> motive (c :: s)) :
    motive template := by
  induction hlength : template.length using Nat.strongRecOn generalizing template with
  | ind n ih =>
      cases template with
      | nil =>
          exact nil
      | cons c s =>
          cases hfront : front? (c :: s) with
          | none =>
              exact char c s hfront (ih s.length (by simp [← hlength]) s rfl)
          | some p =>
              rcases front?_eq_some_iff.mp hfront with ⟨rest, hrest⟩
              have hpos : 0 < p.text.length := List.length_pos_iff.mpr (text_ne_nil p)
              have hlt : rest.length < n := by
                rw [← hlength, ← hrest, List.length_append]
                omega
              rw [← hrest]
              exact placeholder p rest (ih rest.length hlt rest rfl)

theorem fillAtOnce_text (template : Text) : fillAtOnce text template = template := by
  induction template using template_induction with
  | nil =>
      exact fillAtOnce_nil text
  | placeholder p s ih =>
      rw [fillAtOnce_placeholder, ih]
  | char c s hfront ih =>
      rw [fillAtOnce_cons text hfront, ih]

/-!
# Isolated placeholders
-/

/-- Whether a neighbour of a placeholder is the end of the template or a character
that occurs in no placeholder. -/
def isBorder : Option Char -> Bool
  | none => true
  | some c => !isLetter c

/-- Whether every placeholder of a template has a border on both sides. -/
def Isolated (template : Text) : Prop :=
  forall u (p : Placeholder) v, template = u ++ (p.text ++ v) ->
    isBorder u.getLast? = true ∧ isBorder v.head? = true

def isIsolated (template : Text) : Bool :=
  (List.range (template.length + 1)).all fun n =>
    all.all fun p =>
      (Text.after? p.text (template.drop n)).all fun (v : Text) =>
        isBorder (template.take n).getLast? && isBorder v.head?

theorem isIsolated_iff {template : Text} : isIsolated template = true ↔ Isolated template := by
  simp only [isIsolated, List.all_eq_true]
  constructor
  · rintro h u p v rfl
    have hn : u.length ∈ List.range ((u ++ (p.text ++ v)).length + 1) := by
      simp only [List.mem_range, List.length_append]
      omega
    have hborders := h u.length hn p (mem_all p)
    rw [List.drop_left, List.take_left, Text.after?_append] at hborders
    simpa using hborders
  · intro h n _ p _
    cases hbehind : Text.after? p.text (template.drop n) with
    | none =>
        rfl
    | some v =>
        have hcut : template = template.take n ++ (p.text ++ v) := by
          rw [← Text.after?_eq_some_iff.mp hbehind, List.take_append_drop]
        simpa using h (template.take n) p v hcut

instance (template : Text) : Decidable (Isolated template) :=
  decidable_of_iff _ isIsolated_iff

theorem Isolated.of_append {u v : Text} (h : Isolated (u ++ v)) : Isolated v := by
  intro before p behind hv
  have hborders := h (u ++ before) p behind (by rw [hv, List.append_assoc])
  refine ⟨?_, hborders.2⟩
  cases before with
  | nil =>
      rfl
  | cons c before =>
      rw [List.getLast?_append_of_ne_nil _ (List.cons_ne_nil c before)] at hborders
      exact hborders.1

theorem Isolated.tail {c : Char} {s : Text} (h : Isolated (c :: s)) : Isolated s :=
  Isolated.of_append (u := [c]) h

theorem Isolated.border_behind {p : Placeholder} {s : Text} (h : Isolated (p.text ++ s)) :
    isBorder s.head? = true :=
  (h [] p s rfl).2

theorem Isolated.not_letter_before {c : Char} {s : Text} {p : Placeholder}
    (h : Isolated (c :: s)) (hfront : front? s = some p) : isLetter c = false := by
  rcases front?_eq_some_iff.mp hfront with ⟨rest, hrest⟩
  have hborder := (h [c] p rest (by rw [← hrest]; rfl)).1
  simpa [isBorder] using hborder

/-!
# Borders in a filled template
-/

theorem separate_of_border (q : Placeholder) (l : Text) {r : Text} (h : isBorder r.head? = true) :
    Text.Separate q.text l r := by
  cases r with
  | nil =>
      apply Text.Separate.of_rests
      intro _ rest _ _ hne hbegins
      exact hne (List.prefix_nil.mp hbegins)
  | cons c r =>
      apply Text.Separate.of_not_mem
      intro hmem
      have hletter : isLetter c = true := isLetter_of_mem hmem
      simp [isBorder, hletter] at h

theorem border_fillAtOnce (value : Placeholder -> Text) {s : Text} (h : isBorder s.head? = true) :
    isBorder (fillAtOnce value s).head? = true := by
  cases s with
  | nil =>
      rw [fillAtOnce_nil]
      exact h
  | cons c s =>
      have hletter : isLetter c = false := by
        simpa [isBorder] using h
      rw [fillAtOnce_cons value (front?_of_not_letter hletter s)]
      exact h

theorem prefix_of_letters {value : Placeholder -> Text} {w template : Text}
    (hisolated : Isolated template) (hletters : forall c, c ∈ w -> isLetter c = true)
    (hfront : front? template = none) (h : w <+: fillAtOnce value template) : w <+: template := by
  induction w generalizing template with
  | nil =>
      exact List.nil_prefix
  | cons d w ih =>
      cases template with
      | nil =>
          rw [fillAtOnce_nil] at h
          exact h
      | cons c s =>
          rw [fillAtOnce_cons value hfront] at h
          rcases List.cons_prefix_cons.mp h with ⟨rfl, hrest⟩
          cases hnext : front? s with
          | some p =>
              have hletter := hletters d List.mem_cons_self
              rw [hisolated.not_letter_before hnext] at hletter
              cases hletter
          | none =>
              apply List.cons_prefix_cons.mpr
              refine ⟨rfl, ih hisolated.tail ?_ hnext hrest⟩
              intro e he
              exact hletters e (List.mem_cons_of_mem d he)

theorem not_prefix_fillAtOnce (value : Placeholder -> Text) (q : Placeholder) {template : Text}
    (hisolated : Isolated template) (hfront : front? template = none) :
    ¬ q.text <+: fillAtOnce value template := by
  intro h
  have hletters : forall c, c ∈ q.text -> isLetter c = true := fun c hc => isLetter_of_mem hc
  exact front?_eq_none_iff.mp hfront q (prefix_of_letters hisolated hletters hfront h)

/-!
# One pass over a filled template
-/

theorem replaceAll_fillAtOnce (q : Placeholder) (new : Text) (value : Placeholder -> Text)
    {template : Text} (h : Isolated template) :
    Text.replaceAll q.text new (fillAtOnce value template) =
      fillAtOnce (fun p => Text.replaceAll q.text new (value p)) template := by
  induction template using template_induction with
  | nil =>
      rw [fillAtOnce_nil, fillAtOnce_nil, Text.replaceAll_nil]
  | placeholder p s ih =>
      have hseparate : Text.Separate q.text (value p) (fillAtOnce value s) :=
        separate_of_border q (value p) (border_fillAtOnce value h.border_behind)
      rw [fillAtOnce_placeholder, fillAtOnce_placeholder,
        Text.replaceAll_append (text_ne_nil q) new hseparate, ih h.of_append]
  | char c s hfront ih =>
      have hnot := not_prefix_fillAtOnce value q h hfront
      rw [fillAtOnce_cons value hfront] at hnot
      rw [fillAtOnce_cons value hfront, fillAtOnce_cons _ hfront,
        Text.replaceAll_cons_of_not_begins new hnot, ih h.tail]

theorem not_infix_fillAtOnce {value : Placeholder -> Text} {q : Placeholder}
    (hvalue : forall p, ¬ q.text <:+: value p) {template : Text} (h : Isolated template) :
    ¬ q.text <:+: fillAtOnce value template := by
  induction template using template_induction with
  | nil =>
      rw [fillAtOnce_nil]
      intro hoccurs
      exact text_ne_nil q (List.infix_nil.mp hoccurs)
  | placeholder p s ih =>
      rw [fillAtOnce_placeholder]
      intro hoccurs
      have hseparate : Text.Separate q.text (value p) (fillAtOnce value s) :=
        separate_of_border q (value p) (border_fillAtOnce value h.border_behind)
      rcases hseparate.infix_append hoccurs with hleft | hright
      · exact hvalue p hleft
      · exact ih h.of_append hright
  | char c s hfront ih =>
      have hnot := not_prefix_fillAtOnce value q h hfront
      rw [fillAtOnce_cons value hfront] at hnot ⊢
      intro hoccurs
      rcases List.infix_cons_iff.mp hoccurs with hprefix | hrest
      · exact hnot hprefix
      · exact ih h.tail hrest

/-!
# The three passes
-/

def given (content title toc : Text) : Placeholder -> Text
  | Placeholder.content => content
  | Placeholder.title => title
  | Placeholder.toc => toc

/-- The values with the placeholders that later passes find in them filled. -/
def settled (content title toc : Text) : Placeholder -> Text
  | Placeholder.content =>
      Text.replaceAll tocPlaceholder toc (Text.replaceAll titlePlaceholder title content)
  | Placeholder.title => Text.replaceAll tocPlaceholder toc title
  | Placeholder.toc => toc

theorem replaceAll_text (q : Placeholder) (new : Text) (p : Placeholder) :
    Text.replaceAll q.text new p.text = if p = q then new else p.text := by
  by_cases h : p = q
  · have hwhole := Text.replaceAll_occurrence new (text_ne_nil q) []
    rw [List.append_nil, Text.replaceAll_nil, List.append_nil] at hwhole
    rw [if_pos h, h, hwhole]
  · rw [if_neg h, Text.replaceAll_of_not_infix new (not_text_infix_of_ne (Ne.symm h))]

theorem passes_text (content title toc : Text) (p : Placeholder) :
    Text.replaceAll Placeholder.toc.text toc
        (Text.replaceAll Placeholder.title.text title
          (Text.replaceAll Placeholder.content.text content p.text)) =
      settled content title toc p := by
  cases p with
  | content =>
      rw [replaceAll_text, if_pos rfl]
      rfl
  | title =>
      rw [replaceAll_text, if_neg (by decide), replaceAll_text, if_pos rfl]
      rfl
  | toc =>
      rw [replaceAll_text, if_neg (by decide), replaceAll_text, if_neg (by decide),
        replaceAll_text, if_pos rfl]
      rfl

theorem fill_eq_passes {template : Text} (h : Isolated template) (content title toc : Text) :
    fill template content title toc = fillAtOnce (settled content title toc) template := by
  have hcontent := replaceAll_fillAtOnce Placeholder.content content text h
  have htitle := replaceAll_fillAtOnce Placeholder.title title
    (fun p => Text.replaceAll Placeholder.content.text content p.text) h
  have htoc := replaceAll_fillAtOnce Placeholder.toc toc
    (fun p => Text.replaceAll Placeholder.title.text title
      (Text.replaceAll Placeholder.content.text content p.text)) h
  rw [fillAtOnce_text] at hcontent
  calc
    fill template content title toc
        = Text.replaceAll Placeholder.toc.text toc
            (Text.replaceAll Placeholder.title.text title
              (Text.replaceAll Placeholder.content.text content template)) := rfl
    _ = fillAtOnce (fun p => Text.replaceAll Placeholder.toc.text toc
            (Text.replaceAll Placeholder.title.text title
              (Text.replaceAll Placeholder.content.text content p.text))) template := by
          rw [hcontent, htitle, htoc]
    _ = fillAtOnce (settled content title toc) template := by
          rw [funext (passes_text content title toc)]

theorem settled_eq_given {content title toc : Text}
    (hcontent : forall q : Placeholder, ¬ q.text <:+: content)
    (htitle : forall q : Placeholder, ¬ q.text <:+: title) :
    settled content title toc = given content title toc := by
  funext p
  cases p with
  | content =>
      have hfree := Text.replaceAll_of_not_infix title (hcontent Placeholder.title)
      have hfree' := Text.replaceAll_of_not_infix toc (hcontent Placeholder.toc)
      exact (congrArg (Text.replaceAll tocPlaceholder toc) hfree).trans hfree'
  | title =>
      exact Text.replaceAll_of_not_infix toc (htitle Placeholder.toc)
  | toc =>
      rfl

/-- The passes fill an isolated template at once.  Values without placeholders stand in
it as they are given, and no placeholder is left. -/
theorem fill_eq_fillAtOnce {template : Text} (h : Isolated template) (content title toc : Text) :
    fill template content title toc = fillAtOnce (settled content title toc) template ∧
      ((forall p q : Placeholder, ¬ q.text <:+: given content title toc p) ->
        fill template content title toc = fillAtOnce (given content title toc) template ∧
          forall q : Placeholder, ¬ q.text <:+: fill template content title toc) := by
  have hsettled := fill_eq_passes h content title toc
  refine ⟨hsettled, ?_⟩
  intro hfree
  have hgiven : settled content title toc = given content title toc :=
    settled_eq_given (hfree Placeholder.content) (hfree Placeholder.title)
  rw [hsettled, hgiven]
  refine ⟨rfl, ?_⟩
  intro q
  exact not_infix_fillAtOnce (fun p => hfree p q) h

theorem fill_eq_fillAtOnce_of_page :
    let template : Text := "<title>TITLEHERE</title>TOCHERE;CONTENTSHERE"
    let content : Text := "<p>go</p>"
    let title : Text := "Grid"
    let toc : Text := "<ul></ul>"
    Isolated template ∧
      (forall p q : Placeholder, ¬ q.text <:+: given content title toc p) ∧
      fill template content title toc = fillAtOnce (given content title toc) template ∧
      forall q : Placeholder, ¬ q.text <:+: fill template content title toc := by
  intro template content title toc
  have hisolated : Isolated template := by decide +kernel
  have hfree : forall p q : Placeholder, ¬ q.text <:+: given content title toc p := by
    intro p q
    cases p <;> cases q <;> decide +kernel
  exact ⟨hisolated, hfree, (fill_eq_fillAtOnce hisolated content title toc).2 hfree⟩

/-- A placeholder inside a value is filled by a later pass, and only by a later one. -/
example :
    fill "TOCHERE|CONTENTSHERE" "<TITLEHERE>" "T" "TITLEHERE" = "TITLEHERE|<T>".toList := by
  cbv

end Template
end Folio
