import Folio.Binary

/-!
# Similarity of words

Two words are similar as far as they share characters at nearly the same places.
A character of one word claims the first equal character of the other that no
earlier one has claimed and that is not too far away.  The similarity is the mean
of three shares: of the first word that claims, of the second that is claimed, and
of the claims that are in the same order on both sides.
-/

namespace Folio
namespace Text

/-!
# Claims
-/

/-- A character of the second word and whether it is claimed. -/
structure Mark where
  char : Char
  isClaimed : Bool

def claim? (c : Char) : Nat -> Nat -> List Mark -> Option (List Mark)
  | _, 0, _ => none
  | _, _, [] => none
  | 0, high + 1, mark :: marks =>
      if mark.char = c ∧ !mark.isClaimed then
        some ({ mark with isClaimed := true } :: marks)
      else
        (claim? c 0 high marks).map (mark :: ·)
  | low + 1, high + 1, mark :: marks =>
      (claim? c low high marks).map (mark :: ·)

def claims (reach i : Nat) : Text -> List Mark -> Text × List Mark
  | [], marks => ([], marks)
  | c :: s, marks =>
      match claim? c (i - reach) (i + reach + 1) marks with
      | none => claims reach (i + 1) s marks
      | some marks =>
          let (claiming, marks) := claims reach (i + 1) s marks
          (c :: claiming, marks)

def differences (a b : Text) : Nat :=
  ((a.zip b).filter fun (c, d) => c ≠ d).length

/-!
# Similarity
-/

def reach (a b : Text) : Nat :=
  max a.length b.length / 2 - 1

def similarity (a b : Text) : Binary :=
  let (claiming, marks) := claims (reach a b) 0 a (b.map fun c => Mark.mk c false)
  let claimed := (marks.filter Mark.isClaimed).map Mark.char
  let shared := claiming.length
  let swapped := differences claiming claimed / 2
  if shared = 0 then
    Binary.zero
  else
    let shares := (Binary.ratio shared a.length).add (Binary.ratio shared b.length)
    (shares.add (Binary.ratio (shared - swapped) shared)).divNat 3

/-- The candidate most similar to a word, if its similarity is above a bound; of
equally similar ones the last. -/
def mostSimilar? (bound : Binary) (word : Text) (name : α -> Text) (candidates : List α) :
    Option α :=
  let better (best : Option (α × Binary)) (candidate : α) : Option (α × Binary) :=
    let similar := similarity word (name candidate)
    match best with
    | none => if bound.isBelow similar then some (candidate, similar) else none
    | some (_, greatest) =>
        if similar.isBelow greatest then best else some (candidate, similar)
  (candidates.foldl better none).map Prod.fst

end Text
end Folio
