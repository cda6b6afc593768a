import Folio.Decimal

/-!
# Numbers of double precision

Numbers of double precision are whole numbers of 53 bits scaled by powers of two.
A quotient is rounded to the closest one.  Everything is computed with natural
numbers.
-/

namespace Folio

/-- The number `mantissa · 2 ^ exponent`. -/
structure Binary where
  mantissa : Nat
  exponent : Int
  deriving DecidableEq

namespace Binary

def mantissaBits : Nat :=
  53

def leastExponent : Int :=
  -1074

def greatestExponent : Int :=
  971

/-!
# Rounding
-/

def roundQuotient (num den : Nat) : Nat :=
  let whole := num / den
  let rest := num % den
  if 2 * rest < den ∨ (2 * rest = den ∧ whole % 2 = 0) then whole else whole + 1

def floorLog (num den : Nat) : Int :=
  let guess : Int := (num.log2 : Int) - den.log2
  let (power, unit) := Decimal.scaled 1 2 guess
  if power * den ≤ num * unit then guess else guess - 1

def nearest? (num den : Nat) : Option Binary :=
  let exponent := max leastExponent (floorLog num den - (mantissaBits - 1))
  let (power, unit) := Decimal.scaled 1 2 exponent
  let mantissa := roundQuotient (num * unit) (den * power)
  let rounded : Binary :=
    if mantissa = Nat.pow 2 mantissaBits then
      { mantissa := Nat.pow 2 (mantissaBits - 1), exponent := exponent + 1 }
    else
      { mantissa := mantissa, exponent := exponent }
  if greatestExponent < rounded.exponent then none else some rounded

/-- Decimals beyond these powers of ten are out of range or round to zero. -/
def exponentLimit : Int :=
  400

def ofDecimal? (d : Decimal) : Option Binary :=
  if d.digits = 0 ∨ d.leadExponent < -exponentLimit then
    some { mantissa := 0, exponent := leastExponent }
  else if exponentLimit < d.leadExponent then
    none
  else
    let (num, den) := Decimal.scaled d.digits 10 d.exponent
    nearest? num den

/-!
# Arithmetic

A sum or a quotient is computed exactly and rounded once.
-/

def fraction (b : Binary) : Nat × Nat :=
  Decimal.scaled b.mantissa 2 b.exponent

def zero : Binary where
  mantissa := 0
  exponent := leastExponent

def ratio (num den : Nat) : Binary :=
  (nearest? num den).getD zero

def add (a b : Binary) : Binary :=
  let (num, den) := a.fraction
  let (num', den') := b.fraction
  ratio (num * den' + num' * den) (den * den')

def divNat (a : Binary) (n : Nat) : Binary :=
  let (num, den) := a.fraction
  ratio num (den * n)

def isBelow (a b : Binary) : Bool :=
  let (num, den) := a.fraction
  let (num', den') := b.fraction
  num * den' < num' * den

end Binary
end Folio
