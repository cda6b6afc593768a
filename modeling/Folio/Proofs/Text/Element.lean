import Folio.Text

/-!
# Elements of markup

A reader goes through markup character by character and gives the start tags of its
elements, with their attributes.  Every attribute has a value in double quotes or none.
What the reader does with a text depends on the place where it stands, and reading two
texts one behind the other goes on where the first has led.
-/

namespace Folio

theorem Text.not_isAsciiSpace_of_isDigit {c : Char} (h : c.isDigit = true) :
    Text.isAsciiSpace c = false := by
  have hspace : c ≠ ' ' := by
    rintro rfl
    cases h
  have hcontrol : ¬ c ≤ '\r' := by
    intro hle
    simp only [Char.isDigit, Bool.and_eq_true, decide_eq_true_eq] at h
    have hlow := UInt32.le_iff_toNat_le.mp h.1
    simp only [Char.le_def, UInt32.le_iff_toNat_le, Char.reduceVal, UInt32.reduceToNat] at hlow hle
    omega
  simp [Text.isAsciiSpace, hspace, hcontrol]

namespace Markup

structure Element where
  name : Text
  attributes : List (Text × Text)
  deriving DecidableEq

namespace Element

def named (name : Text) : Element where
  name := name
  attributes := []

def add (element : Element) (key value : Text) : Element :=
  { element with attributes := element.attributes ++ [(key, value)] }

def id? (element : Element) : Option Text :=
  element.attributes.lookup "id".toList

end Element

/-- Where the reader stands: outside of tags, behind the bracket of a tag, in a closing
tag, in the name of a start tag, between its attributes, in the name of an attribute,
in front of its value, or in the value. -/
inductive Place where
  | text
  | bracket
  | closing
  | name (s : Text)
  | gap (element : Element)
  | key (element : Element) (s : Text)
  | equals (element : Element) (key : Text)
  | value (element : Element) (key s : Text)

/-!
# The reader
-/

def step : Place -> Char -> Place × Option Element
  | Place.text, c => if c = '<' then (Place.bracket, none) else (Place.text, none)
  | Place.bracket, c =>
      if c = '/' then
        (Place.closing, none)
      else if Text.isAsciiAlpha c then
        (Place.name [c], none)
      else
        (Place.text, none)
  | Place.closing, c => if c = '>' then (Place.text, none) else (Place.closing, none)
  | Place.name s, c =>
      if c = '>' then
        (Place.text, some (Element.named s))
      else if Text.isAsciiSpace c || c = '/' then
        (Place.gap (Element.named s), none)
      else
        (Place.name (s ++ [c]), none)
  | Place.gap element, c =>
      if c = '>' then
        (Place.text, some element)
      else if Text.isAsciiSpace c || c = '/' then
        (Place.gap element, none)
      else
        (Place.key element [c], none)
  | Place.key element s, c =>
      if c = '>' then
        (Place.text, some (element.add s []))
      else if Text.isAsciiSpace c || c = '/' then
        (Place.gap (element.add s []), none)
      else if c = '=' then
        (Place.equals element s, none)
      else
        (Place.key element (s ++ [c]), none)
  | Place.equals element key, c =>
      if c = '"' then (Place.value element key [], none) else (Place.equals element key, none)
  | Place.value element key s, c =>
      if c = '"' then
        (Place.gap (element.add key s), none)
      else
        (Place.value element key (s ++ [c]), none)

def scan (place : Place) : Text -> Place × List Element
  | [] => (place, [])
  | c :: s =>
      let (next, found) := step place c
      let (last, others) := scan next s
      (last, found.toList ++ others)

def elements (s : Text) : List Element :=
  (scan Place.text s).2

/-- How many elements of a text have the given anchor. -/
def targets (s id : Text) : Nat :=
  (elements s).countP fun element => element.id? == some id

theorem scan_append (place : Place) (s t : Text) :
    scan place (s ++ t) =
      ((scan (scan place s).1 t).1, (scan place s).2 ++ (scan (scan place s).1 t).2) := by
  induction s generalizing place with
  | nil =>
      rfl
  | cons c s ih =>
      simp only [List.cons_append, scan, ih, List.append_assoc]

/-!
# Elements with an anchor
-/

/-- Whether reading a text leads from one place to another, and the elements that end in
it have the given anchors, in this order. -/
structure Finds (start : Place) (s : Text) (stop : Place) (ids : List Text) : Prop where
  place : (scan start s).1 = stop
  ids : (scan start s).2.filterMap Element.id? = ids

namespace Finds

variable {start middle stop : Place} {s t : Text} {ids others : List Text}

theorem nil (place : Place) : Finds place [] place [] :=
  ⟨rfl, rfl⟩

theorem append (hs : Finds start s middle ids) (ht : Finds middle t stop others) :
    Finds start (s ++ t) stop (ids ++ others) where
  place := by
    rw [scan_append, hs.place]
    exact ht.place
  ids := by
    rw [scan_append, hs.place, List.filterMap_append, hs.ids, ht.ids]

theorem before (hs : Finds start s middle []) (ht : Finds middle t stop ids) :
    Finds start (s ++ t) stop ids :=
  hs.append ht

theorem behind (hs : Finds start s middle ids) (ht : Finds middle t stop []) :
    Finds start (s ++ t) stop ids := by
  have h := hs.append ht
  rw [List.append_nil] at h
  exact h

theorem unique (hs : Finds start s stop ids) (hs' : Finds start s middle others) :
    ids = others :=
  hs.ids.symm.trans hs'.ids

theorem targets (h : Finds Place.text s stop ids) (id : Text) : targets s id = ids.count id := by
  rw [← h.ids, List.count_filterMap]
  rfl

theorem stay (h : forall c, c ∈ s -> step start c = (start, none)) : Finds start s start [] := by
  induction s with
  | nil =>
      exact Finds.nil start
  | cons c s ih =>
      have hstep : Finds start [c] start [] := by
        constructor
        · rw [scan, h c List.mem_cons_self]
          rfl
        · rw [scan, h c List.mem_cons_self]
          rfl
      exact hstep.append (ih fun d hd => h d (List.mem_cons_of_mem c hd))

theorem grow {place : Text -> Place}
    (h : forall s c, c ∈ t -> step (place s) c = (place (s ++ [c]), none)) :
    Finds (place s) t (place (s ++ t)) [] := by
  induction t generalizing s with
  | nil =>
      rw [List.append_nil]
      exact Finds.nil (place s)
  | cons c t ih =>
      have hstep : Finds (place s) [c] (place (s ++ [c])) [] := by
        constructor
        · rw [scan, h s c List.mem_cons_self]
          rfl
        · rw [scan, h s c List.mem_cons_self]
          rfl
      have hrest := hstep.append
        (ih (s := s ++ [c]) fun s d hd => h s d (List.mem_cons_of_mem c hd))
      rw [List.append_assoc] at hrest
      exact hrest

theorem text (h : '<' ∉ s) : Finds Place.text s Place.text [] := by
  apply stay
  intro c hc
  have hne : c ≠ '<' := fun heq => h (heq ▸ hc)
  rw [step, if_neg hne]

theorem value (h : '"' ∉ t) (element : Element) (key : Text) :
    Finds (Place.value element key s) t (Place.value element key (s ++ t)) [] := by
  apply grow
  intro s c hc
  have hne : c ≠ '"' := fun heq => h (heq ▸ hc)
  rw [step, if_neg hne]

theorem nameNumber (s : Text) (n : Nat) :
    Finds (Place.name s) (Text.ofNat n) (Place.name (s ++ Text.ofNat n)) [] := by
  apply grow
  intro s c hc
  have hdigit : c.isDigit = true := Nat.isDigit_of_mem_toDigits (by decide) (by decide) hc
  have hspace := Text.not_isAsciiSpace_of_isDigit hdigit
  have hclose : c ≠ '>' := by
    rintro rfl
    cases hdigit
  have hslash : c ≠ '/' := by
    rintro rfl
    cases hdigit
  simp [step, hclose, hspace, hslash]

theorem closing (h : '>' ∉ s) : Finds Place.closing s Place.closing [] := by
  apply stay
  intro c hc
  have hne : c ≠ '>' := fun heq => h (heq ▸ hc)
  rw [step, if_neg hne]

theorem whole (h : '"' ∉ t) (element : Element) (key : Text) :
    Finds (Place.value element key []) t (Place.value element key t) [] :=
  value h element key

end Finds

end Markup
end Folio
