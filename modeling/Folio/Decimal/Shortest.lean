import Folio.Binary

/-!
# Shortest decimal texts

Settings hold numbers of double precision.  Such a number is shown by the
shortest decimal that rounds to it, and of the shortest ones by the nearest.
Everything is computed with natural numbers.
-/

namespace Folio

namespace Binary

/-!
# The interval of a double

The reals that round to a double form an interval, with its ends when the
mantissa is even.  Below a power of two the doubles are closer together.
-/

structure Interval where
  low : Nat
  value : Nat
  high : Nat
  exponent : Int
  closed : Bool

def interval (b : Binary) : Interval where
  low :=
    if b.mantissa = Nat.pow 2 (mantissaBits - 1) ∧ leastExponent < b.exponent then
      4 * b.mantissa - 1
    else
      4 * b.mantissa - 2
  value := 4 * b.mantissa
  high := 4 * b.mantissa + 2
  exponent := b.exponent - 2
  closed := b.mantissa % 2 = 0

namespace Interval

def holds (i : Interval) (d : Decimal) : Bool :=
  let (num, den) := Decimal.scaled d.digits 10 d.exponent
  let (power, unit) := Decimal.scaled 1 2 i.exponent
  let low := i.low * power * den
  let high := i.high * power * den
  let value := num * unit
  if i.closed then low ≤ value && value ≤ high else low < value && value < high

/-- The decimal with the given exponent closest to the double, if it lies in the
interval; of two equally close ones the greater. -/
def onGrid? (i : Interval) (exponent : Int) : Option Decimal :=
  let (power, unit) := Decimal.scaled i.value 2 i.exponent
  let (grid, parts) := Decimal.scaled 1 10 exponent
  let num := power * parts
  let den := unit * grid
  let below : Decimal := { digits := num / den, exponent := exponent }
  let above : Decimal := { digits := num / den + 1, exponent := exponent }
  let nearer := if 2 * (num % den) < den then (below, above) else (above, below)
  if i.holds nearer.1 then
    some nearer.1
  else if i.holds nearer.2 then
    some nearer.2
  else
    none

def search (i : Interval) (exponent : Int) : Nat -> Option Decimal
  | 0 => none
  | fuel + 1 =>
      match i.onGrid? exponent with
      | some d => some d
      | none => i.search (exponent - 1) fuel

end Interval

/-- Grids from this power of ten on are too coarse for every double. -/
def coarsest : Int :=
  310

def shortest (b : Binary) : Decimal :=
  if b.mantissa = 0 then
    { digits := 0, exponent := 0 }
  else
    match b.interval.search coarsest 700 with
    | some d => d.normal
    | none => { digits := b.mantissa, exponent := b.exponent }

end Binary

/-!
# Shown numbers
-/

namespace Decimal

def shown (negative : Bool) (d : Decimal) : Text :=
  let magnitude : Text :=
    match Binary.ofDecimal? d with
    | some b => b.shortest.positional
    | none => "inf"
  if negative then '-' :: magnitude else magnitude

end Decimal
end Folio
