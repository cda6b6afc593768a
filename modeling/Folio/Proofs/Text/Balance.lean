import Folio.Proofs.Text.Element

/-!
# Balanced tags

Elements of markup begin with a start tag and end with an end tag.  The tags of a text
are balanced when every element ends, and what begins inside an element ends inside it.
Markup that is put together from balanced parts is balanced.
-/

namespace Folio
namespace Markup

/-!
# Tags
-/

inductive Tag where
  | start (name : Text)
  | stop (name : Text)
  deriving DecidableEq

def tagsFrom (place : Place) (ending : Text) : Text -> List Tag
  | [] => []
  | c :: s =>
      let (next, found) := step place c
      match place with
      | Place.closing =>
          if c = '>' then
            Tag.stop ending :: tagsFrom next [] s
          else
            tagsFrom next (ending ++ [c]) s
      | _ => (found.map fun element => Tag.start element.name).toList ++ tagsFrom next [] s

def tags (s : Text) : List Tag :=
  tagsFrom Place.text [] s

/-- Whether all tags belong to elements that stand one behind the other or inside of each
other. -/
inductive Balanced : List Tag -> Prop where
  | nil : Balanced []
  | element {name : Text} {inner others : List Tag} (hinner : Balanced inner)
      (hothers : Balanced others) :
      Balanced (Tag.start name :: (inner ++ Tag.stop name :: others))

theorem Balanced.append {former latter : List Tag} (h : Balanced former)
    (h' : Balanced latter) : Balanced (former ++ latter) := by
  induction h with
  | nil =>
      exact h'
  | element hinner _ _ ih =>
      rw [List.cons_append, List.append_assoc, List.cons_append]
      exact Balanced.element hinner ih

/-!
# Texts that begin and end outside of tags
-/

/-- Whether a text has the given tags and ends outside of them, so that the tags of what
follows it are read from there. -/
def Carries (s : Text) (found : List Tag) : Prop :=
  forall rest, tags (s ++ rest) = found ++ tags rest

namespace Carries

variable {s t : Text} {found others : List Tag}

theorem tags (h : Carries s found) : tags s = found := by
  have hwhole := h []
  rw [List.append_nil] at hwhole
  rw [hwhole]
  exact List.append_nil found

theorem nil : Carries [] [] :=
  fun _ => rfl

theorem append (hs : Carries s found) (ht : Carries t others) :
    Carries (s ++ t) (found ++ others) := by
  intro rest
  rw [List.append_assoc, hs, ht, List.append_assoc]

theorem text (h : '<' ∉ s) : Carries s [] := by
  intro rest
  induction s with
  | nil =>
      rfl
  | cons c s ih =>
      have hne : c ≠ '<' := fun heq => h (by simp [heq])
      have hstep : step Place.text c = (Place.text, none) := by
        rw [step, if_neg hne]
      rw [List.cons_append, Markup.tags, tagsFrom, hstep]
      exact ih fun hmem => h (List.mem_cons_of_mem c hmem)

end Carries

theorem tagsFrom_value {v : Text} (h : '"' ∉ v) (element : Element) (key s rest : Text) :
    tagsFrom (Place.value element key s) [] (v ++ rest) =
      tagsFrom (Place.value element key (s ++ v)) [] rest := by
  induction v generalizing s with
  | nil =>
      rw [List.nil_append, List.append_nil]
  | cons c v ih =>
      have hne : c ≠ '"' := fun heq => h (by simp [heq])
      have hstep : step (Place.value element key s) c =
          (Place.value element key (s ++ [c]), none) := by
        rw [step, if_neg hne]
      rw [List.cons_append, tagsFrom, hstep]
      dsimp only [Option.map_none, Option.toList_none]
      rw [List.nil_append, ih fun hmem => h (List.mem_cons_of_mem c hmem), List.append_assoc,
        List.singleton_append]

end Markup
end Folio
