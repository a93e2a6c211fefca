import Reduct.Number.Binary

/-!
# Shortest decimals

A number is written with the fewest decimal digits that still tell it from every other
number. The reals that round to a number form an interval around it, which holds its two ends
exactly when the mantissa is even. Among the decimals in the interval with the fewest digits
the one nearest to the number is taken, of two equally near ones the greater.
-/

namespace Reduct

/-- The decimal `digits * 10 ^ exponent`. -/
structure Decimal where
  digits : Nat
  exponent : Int
deriving Repr, DecidableEq

namespace Decimal

/-- The same decimal without trailing zeros; `places` bounds how many are dropped. -/
def strip : (places : Nat) → Decimal → Decimal
  | 0, d => d
  | places + 1, d =>
    if d.digits % 10 = 0 then strip places ⟨d.digits / 10, d.exponent + 1⟩ else d

end Decimal

namespace Binary

/-- The magnitude as an exact decimal. -/
def toDecimal (b : Binary) : Decimal :=
  if b.exponent ≥ 0 then ⟨b.mantissa <<< b.exponent.toNat, 0⟩
  else ⟨b.mantissa * Nat.pow 5 (-b.exponent).toNat, b.exponent⟩

/-- The magnitude in units of `10 ^ grid`, as numerator and denominator. The numerator is the
mantissa times the first component. -/
def scale (b : Binary) (grid : Int) : Nat × Nat :=
  (Nat.pow 10 (-grid).toNat <<< b.exponent.toNat, Nat.pow 10 grid.toNat <<< (-b.exponent).toNat)

/-- Does `candidate * 10 ^ grid` lie among the reals that round to the magnitude? Both sides
are compared in quarters of the gap between neighbouring numbers. -/
def readsBack (b : Binary) (grid : Int) (candidate : Nat) : Bool :=
  let (unit, parts) := b.scale grid
  let low := (if b.isNarrowBelow then 4 * b.mantissa - 1 else 4 * b.mantissa - 2) * unit
  let high := (4 * b.mantissa + 2) * unit
  let point := 4 * candidate * parts
  if b.mantissa % 2 = 0 then low ≤ point && point ≤ high else low < point && point < high

/-- The decimal on the grid of step `10 ^ grid` that reads back and is nearest, if one of the
two neighbours of the magnitude on that grid reads back. -/
def nearest? (b : Binary) (grid : Int) : Option Decimal :=
  let (unit, parts) := b.scale grid
  let below := b.mantissa * unit / parts
  let lower := b.readsBack grid below
  let upper := b.readsBack grid (below + 1)
  -- With both in reach, the upper one wins from halfway on.
  let up := (2 * below + 1) * parts ≤ 2 * (b.mantissa * unit)
  if upper && (!lower || up) then some ⟨below + 1, grid⟩
  else if lower then some ⟨below, grid⟩
  else none

/-- Is the magnitude below `10 ^ k`? -/
def isBelowPower (b : Binary) (k : Int) : Bool :=
  b.mantissa * (b.scale k).1 < (b.scale k).2

/-- The least `k` with the magnitude below `10 ^ k`: an estimate from the binary length that
is never too great, then as many steps up as it needs. -/
def decimalLength (b : Binary) : Int :=
  let estimate := (b.mantissa.log2 + b.exponent) * 30103 / 100000
  match (List.range 4).find? fun (step : Nat) => b.isBelowPower (estimate + step) with
  | some step => estimate + step
  | none => estimate + 4

/-- The shortest decimal that reads back as the non-zero magnitude. Seventeen digits are
enough to tell any two numbers apart. -/
def shortest (b : Binary) : Decimal :=
  let length := b.decimalLength
  match (List.range 17).findSome? fun (n : Nat) => b.nearest? (length - (n + 1)) with
  | some d => d.strip 17
  | none => b.toDecimal

end Binary

end Reduct
