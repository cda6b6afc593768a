import Mathlib.Data.List.Forall2
import Folio.Value.Decoding

/-!
# Records from tables

A table tells some fields of a record: it has an entry for each of them, with the name of
the field for its key and a value that shows what the field holds.  Entries with other keys
may stand between them.  Decoding fills in exactly the fields that are told, in whatever
order they stand.
-/

namespace Folio
namespace Value

/-!
# Values that show something
-/

/-- Whether a value is how a format gives a text.  Where the wanted type decides, what is
written counts, whatever else it could mean. -/
inductive IsText (format : Format) (s : Text) : Value -> Prop where
  | scalar : IsText format s (text s)
  | plain (hformat : format = Format.yaml) (meaning : Option Scalar) (declared : Scalar) :
      IsText format s (plain s meaning declared)

inductive IsNumber (format : Format) (n : Nat) : Value -> Prop where
  | scalar : IsNumber format n (scalar (Scalar.int n))
  | plain (hformat : format = Format.yaml) {written : Text} (declared : Scalar)
      (hsign : written.head? ≠ some '-') :
      IsNumber format n (plain written (some (Scalar.int n)) declared)

theorem IsText.toText {format : Format} {s : Text} {v : Value} (h : v.IsText format s)
    (expected : Text) : v.toText expected = Except.ok s := by
  cases h with
  | scalar =>
      rfl
  | plain _ _ _ =>
      rfl

theorem IsNumber.byte {format : Format} {n : Nat} {v : Value} (h : v.IsNumber format n)
    (hn : n < 256) : v.byte = Except.ok n := by
  have hint : intToByte n = Except.ok n := by
    have hrange : 0 ≤ (n : Int) ∧ (n : Int) < 256 := by
      omega
    rw [intToByte, if_pos hrange, Int.toNat_natCast]
  cases h with
  | scalar =>
      exact hint
  | plain _ _ hsign =>
      change (if _ then _ else _) = _
      rw [if_neg hsign]
      exact hint

theorem IsText.variant {format : Format} {s : Text} {v : Value} (h : v.IsText format s)
    {decode : Text -> Option α} {a : α} (hdecode : decode s = some a) (allowed : List Text) :
    v.variant format decode allowed = Except.ok a := by
  have hnamed : variantNamed decode allowed s = Except.ok a := by
    rw [variantNamed, hdecode]
  cases h with
  | scalar =>
      cases format <;> exact hnamed
  | plain hformat _ _ =>
      subst hformat
      exact hnamed

theorem elementsFrom_of_forall₂ {decode : Value -> Decoded α} {as : List α} {values : List Value}
    (h : List.Forall₂ (fun a v => decode v = Except.ok a) as values) (n : Nat) :
    elementsFrom decode n values = Except.ok as := by
  induction h generalizing n with
  | nil =>
      rfl
  | cons ha _ ih =>
      simp only [elementsFrom, ha, ih, within, Except.mapError]

/-!
# Tables that tell fields
-/

section Tables

variable {F : Type} (format : Format) (name : F -> Text) (shows : F -> Value -> Prop)

/-- The fields that the entries of a table tell, in the order in which they stand there,
each once.  What stands beside a foreign key is passed over if it could be read. -/
inductive Tells : List F -> List (Value × Value) -> Prop where
  | nil : Tells [] []
  | field {f : F} {key v : Value} {told : List F} {entries : List (Value × Value)}
      (hkey : key.IsText format (name f)) (hshows : shows f v) (hnew : f ∉ told)
      (hrest : Tells told entries) : Tells (f :: told) ((key, v) :: entries)
  | foreign {s : Text} {key v : Value} {told : List F} {entries : List (Value × Value)}
      (hkey : key.IsText format s) (hforeign : forall f, s ≠ name f)
      (hwhole : v.isWhole = true) (hrest : Tells told entries) :
      Tells told ((key, v) :: entries)

/-- The entries of these fields, with the values that are written for them. -/
def entriesOf (written : F -> Value) (told : List F) : List (Value × Value) :=
  told.map fun f => (text (name f), written f)

/-- Whether these are the decoders of the fields of a record, which holds what the values
show: `record filled` has the fields in `filled` and no others. -/
structure Fills (fields : List (RecordField α)) (record : List F -> α) : Prop where
  named : forall field, field ∈ fields -> exists f, field.name = name f
  step : forall f, exists field, fields.find? (fun field => field.name == name f) = some field ∧
    forall filled v, f ∉ filled -> shows f v ->
      field.isSet (record filled) = false ∧
        field.decode (record filled) v = Except.ok (record (filled ++ [f]))

end Tables

variable {F : Type} {format : Format} {name : F -> Text} {shows : F -> Value -> Prop}

theorem tells_entriesOf {written : F -> Value} (hwritten : forall f, shows f (written f))
    {told : List F} (h : told.Nodup) : Tells format name shows told (entriesOf name written told) := by
  induction told with
  | nil =>
      exact Tells.nil
  | cons f told ih =>
      rcases List.nodup_cons.mp h with ⟨hnew, hrest⟩
      exact Tells.field IsText.scalar (hwritten f) hnew (ih hrest)

theorem fillTable_of_tells {fields : List (RecordField α)} {record : List F -> α}
    (hfills : Fills name shows fields record) {told : List F} {entries : List (Value × Value)}
    (h : Tells format name shows told entries) (filled : List F)
    (hnew : forall f, f ∈ told -> f ∉ filled) (n : Nat) :
    fillTable fields n (record filled) entries = Except.ok (record (filled ++ told)) := by
  induction h generalizing filled n with
  | nil =>
      rw [List.append_nil]
      rfl
  | @field f key v told entries hkey hshows hfirst _ ih =>
      rcases hfills.step f with ⟨field, hfield, hstep⟩
      rcases hstep filled v (hnew f List.mem_cons_self) hshows with ⟨hunset, hdecode⟩
      have hrest : forall g, g ∈ told -> g ∉ filled ++ [f] := by
        intro g hg hmem
        rcases List.mem_append.mp hmem with hold | hlast
        · exact hnew g (List.mem_cons_of_mem f hg) hold
        · rw [List.mem_singleton.mp hlast] at hg
          exact hfirst hg
      rw [List.append_cons, ← ih (filled ++ [f]) hrest (n + 1), fillTable, hkey.toText]
      simp only [within, Except.mapError, hfield, hunset, hdecode, Bool.false_eq_true, if_false]
  | @foreign s key v told entries hkey hforeign hwhole _ ih =>
      have hnone : fields.find? (fun field => field.name == s) = none := by
        rw [List.find?_eq_none]
        intro field hmem heq
        rcases hfills.named field hmem with ⟨f, hname⟩
        exact hforeign f ((eq_of_beq heq).symm.trans hname)
      rw [← ih filled hnew (n + 1), fillTable, hkey.toText]
      simp only [within, Except.mapError, hnone, hwhole, if_true]

theorem fill_of_tells {fields : List (RecordField α)} {record : List F -> α}
    (hfills : Fills name shows fields record) {told : List F} {entries : List (Value × Value)}
    (h : Tells format name shows told entries) (expected : Text) :
    (table entries).fill format expected fields (record []) = Except.ok (record told) :=
  fillTable_of_tells hfills h [] (fun _ _ => List.not_mem_nil) 0

/-!
# Records with some of their fields
-/

section Parts

variable [DecidableEq F]

def whenTold (told : List F) (f : F) (a : α) : Option α :=
  if f ∈ told then some a else none

theorem whenTold_of_not_mem {told : List F} {f : F} (h : f ∉ told) (a : α) :
    whenTold told f a = none :=
  if_neg h

@[simp] theorem whenTold_append_self (told : List F) (f : F) (a : α) :
    whenTold (told ++ [f]) f a = some a :=
  if_pos (by simp)

@[simp] theorem whenTold_append_of_ne (told : List F) {f g : F} (h : f ≠ g) (a : α) :
    whenTold (told ++ [g]) f a = whenTold told f a := by
  simp [whenTold, h]

theorem getD_whenTold (told : List F) (f : F) (a default : α) :
    (whenTold told f a).getD default = if f ∈ told then a else default := by
  unfold whenTold
  split
  · rfl
  · rfl

end Parts

end Value
end Folio
