/-!
# Binary numbers

A finite number is a sign and a natural number times a power of two. Its magnitude is read
off the bits of the binary64 format and written back to them; the exact arithmetic on numbers
(their shortest decimal form, remainders, the test for integers) works on this form.
-/

namespace Reduct

/-- The magnitude `mantissa * 2 ^ exponent` of a finite number. -/
structure Binary where
  mantissa : Nat
  exponent : Int
deriving Repr, DecidableEq

namespace Binary

/-- The least mantissa with 53 binary digits: normal numbers have mantissas from here on. -/
def leastNormal : Nat := 1 <<< 52

/-- The magnitude of a finite number. -/
def ofFloat (x : Float) : Binary :=
  let biased := ((x.toBits >>> 52) &&& 0x7FF).toNat
  let fraction := (x.toBits &&& 0xFFFFFFFFFFFFF).toNat
  if biased = 0 then ⟨fraction, -1074⟩ else ⟨leastNormal + fraction, (biased : Int) - 1075⟩

/-- Is the gap to the next smaller number half the gap to the next greater one? So it is at a
power of two, the least normal number apart. -/
def isNarrowBelow (b : Binary) : Bool := b.mantissa == leastNormal && b.exponent > -1074

/-- The number with a magnitude that the format can hold: a mantissa with no more than 53
digits before its trailing zeros, and an exponent in range. -/
def toFloat (b : Binary) : Float :=
  if b.mantissa = 0 then 0 else
    let length := b.mantissa.log2
    -- The mantissa has its leading digit at place 52, unless the exponent ends at -1074.
    let exponent := max (b.exponent + length - 52) (-1074)
    let mantissa :=
      if exponent ≥ b.exponent then b.mantissa >>> (exponent - b.exponent).toNat
      else b.mantissa <<< (b.exponent - exponent).toNat
    let biased := if mantissa < leastNormal then 0 else (exponent + 1075).toNat
    Float.ofBits (UInt64.ofNat (biased * leastNormal + mantissa % leastNormal))

/-- The integer of this magnitude, if it is one. -/
def toNat? (b : Binary) : Option Nat :=
  if b.exponent ≥ 0 then some (b.mantissa <<< b.exponent.toNat)
  else
    let whole := b.mantissa >>> (-b.exponent).toNat
    if whole <<< (-b.exponent).toNat = b.mantissa then some whole else none

end Binary

/-- Does the number carry a minus sign? -/
def isNegative (x : Float) : Bool := x.toBits >>> 63 == 1

/-- The integer a number stands for, if it stands for one. -/
def integer? (x : Float) : Option Int :=
  if x.isFinite then
    (Binary.ofFloat x).toNat?.map fun n => if isNegative x then -(n : Int) else n
  else none

end Reduct
