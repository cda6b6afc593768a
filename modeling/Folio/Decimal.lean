import Folio.Text

/-!
# Decimal numbers

A decimal number is a natural number scaled by a power of ten.  This is what
the digits, the point and the exponent of a written number say, before it is
rounded to anything.
-/

namespace Folio

/-- The number `digits · 10 ^ exponent`. -/
structure Decimal where
  digits : Nat
  exponent : Int
  deriving DecidableEq

namespace Decimal

def scaled (n base : Nat) (exponent : Int) : Nat × Nat :=
  if 0 ≤ exponent then
    (n * Nat.pow base exponent.toNat, 1)
  else
    (n, Nat.pow base (-exponent).toNat)

def leadExponent (d : Decimal) : Int :=
  d.exponent + (Text.ofNat d.digits).length - 1

def ofParts (whole fraction : Text) (exponent : Int) : Decimal where
  digits := Text.toNat (whole ++ fraction)
  exponent := exponent - fraction.length

def dropZeros : Nat -> Decimal -> Decimal
  | 0, d => d
  | fuel + 1, d =>
      if d.digits % 10 = 0 ∧ d.digits ≠ 0 then
        dropZeros fuel { digits := d.digits / 10, exponent := d.exponent + 1 }
      else
        d

def normal (d : Decimal) : Decimal :=
  dropZeros (Text.ofNat d.digits).length d

def positional (d : Decimal) : Text :=
  let digits := Text.ofNat d.digits
  if 0 ≤ d.exponent then
    digits ++ List.replicate d.exponent.toNat '0' ++ ".0"
  else
    let places := (-d.exponent).toNat
    let padded := List.replicate (places + 1 - digits.length) '0' ++ digits
    let whole := padded.length - places
    padded.take whole ++ '.' :: padded.drop whole

end Decimal
end Folio
