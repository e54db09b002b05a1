import QueryFrame.Number.Decimal

/-!
# The shortest decimal that reads back

A positive number of the 64-bit binary format is `mantissa * 2 ^ exponent`. Every real number
between the midpoints to its two neighbours is rounded to it, and a midpoint itself when the
mantissa is even. Among the decimals in that interval those with the fewest digits are wanted, of
these the one closest to the number, and of two equally close ones the greater.

The search is that sentence made into a loop, in exact arithmetic. With one digit, two digits and
so on, the two neighbours of the number on the grid of that many digits are tried, and the first
grid with a hit wins. Should no grid up to seventeen digits have one, the exact value is the
answer.
-/

namespace QueryFrame.Number

/-- A positive number of the binary format. -/
structure Binary where
  /-- the significant bits as a whole number -/
  mantissa : Nat
  /-- the power of two that they are multiplied with -/
  exponent : Int
  /-- whether the neighbour below is only half as far away as the one above -/
  narrowBelow : Bool

/-- The decimal `digits * 10 ^ exponent`. -/
structure Scaled where
  /-- the digits as a whole number -/
  digits : Nat
  /-- the power of ten that they are multiplied with -/
  exponent : Int

namespace Binary

/-- The lower midpoint, in quarters of the last bit. -/
def low (x : Binary) : Nat :=
  if x.narrowBelow then 4 * x.mantissa - 1 else 4 * x.mantissa - 2

/-- The upper midpoint, in quarters of the last bit. -/
def high (x : Binary) : Nat :=
  4 * x.mantissa + 2

/-- Whether the midpoints belong to the interval. -/
def closed (x : Binary) : Bool :=
  x.mantissa % 2 = 0

/-- The exact value as a decimal. -/
def exact (x : Binary) : Scaled :=
  if 0 ≤ x.exponent then ⟨x.mantissa * Nat.pow 2 x.exponent.toNat, 0⟩
  else ⟨x.mantissa * Nat.pow 5 (-x.exponent).toNat, x.exponent⟩

/-- The exponent of the leading digit. -/
def leading (x : Binary) : Int :=
  (Decimal.digits x.exact.digits).length - 1 + x.exact.exponent

/-- The closest multiple of `10 ^ grid` in the interval, in units of the grid. A tie goes to the
greater one. -/
def closestOn (x : Binary) (grid : Int) : Option Nat :=
  -- `d * 10 ^ grid` compares with `n` quarters of the last bit as `d * tens` with `n * twos`
  let twos := Nat.pow 10 (-grid).toNat * Nat.pow 2 (x.exponent - 2).toNat
  let tens := Nat.pow 10 grid.toNat * Nat.pow 2 (2 - x.exponent).toNat
  let value := 4 * x.mantissa * twos
  let below := value / tens
  let belowFits :=
    if x.closed then x.low * twos ≤ below * tens else x.low * twos < below * tens
  let aboveFits :=
    if x.closed then (below + 1) * tens ≤ x.high * twos else (below + 1) * tens < x.high * twos
  if belowFits then
    if aboveFits ∧ tens ≤ 2 * (value - below * tens) then some (below + 1) else some below
  else if aboveFits then some (below + 1)
  else none

/-- The decimal of fewest digits that reads back, possibly with zeros at the end. -/
def select (x : Binary) : Scaled :=
  let hit := (List.range 17).findSome? fun (n : Nat) =>
    (x.closestOn (x.leading - n)).map fun digits => Scaled.mk digits (x.leading - n)
  hit.getD x.exact

end Binary

namespace Scaled

/-- The same decimal without zeros at the end of its digits. -/
def strip (digits : Nat) (exponent : Int) : Scaled :=
  if h : digits % 10 = 0 ∧ 0 < digits then strip (digits / 10) (exponent + 1)
  else ⟨digits, exponent⟩
  termination_by digits
  decreasing_by omega

end Scaled

/-- The shortest decimal that reads back, without zeros at the end of its digits. -/
def Binary.shortest (x : Binary) : Scaled :=
  Scaled.strip x.select.digits x.select.exponent

end QueryFrame.Number
