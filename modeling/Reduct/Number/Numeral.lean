import Reduct.Number.Shortest

/-!
# Numerals

How numbers are written and read. Written numbers are positional whatever their size: the
shortest digits that tell the number apart, zeros up to or after the point, no exponent, and
no point in an integer. Reading takes more forms: a sign, digits with a point anywhere among
them, an exponent, and the words for infinity and for the value that is no number.
-/

namespace Reduct

namespace Decimal

/-- The decimal in positional form. -/
def positional (d : Decimal) : List Char :=
  let digits := Nat.toDigits 10 d.digits
  if d.exponent ≥ 0 then digits ++ List.replicate d.exponent.toNat '0'
  else
    let places := (-d.exponent).toNat
    if places < digits.length then
      digits.take (digits.length - places) ++ '.' :: digits.drop (digits.length - places)
    else '0' :: '.' :: (List.replicate (places - digits.length) '0' ++ digits)

/-- The number nearest to a decimal. The format ends below `10 ^ 310` and has nothing but zero
left below `10 ^ (-330)`. -/
def toFloat (d : Decimal) : Float :=
  if d.digits = 0 then 0
  else if d.exponent > 310 then 1.0 / 0.0
  else if d.exponent + (Nat.toDigits 10 d.digits).length < -330 then 0
  else Float.ofScientific d.digits (d.exponent < 0) d.exponent.natAbs

end Decimal

namespace Numeral

/-- The characters of a number. -/
def chars (x : Float) : List Char :=
  if x.isNaN then ['N', 'a', 'N']
  else
    let sign := if isNegative x then ['-'] else []
    if x.isInf then sign ++ ['i', 'n', 'f']
    else if x == 0 then sign ++ ['0']
    else sign ++ (Binary.ofFloat x).shortest.positional

/-- The text of a number. -/
def text (x : Float) : String := String.ofList (chars x)

/-- The value of a run of decimal digits. -/
def digitsValue (ds : List Char) : Nat :=
  ds.foldl (fun n d => 10 * n + (d.toNat - '0'.toNat)) 0

/-- Reads an exponent: nothing, or a letter `e`, an optional sign and digits. -/
def exponent? : List Char → Option Int
  | [] => some 0
  | e :: cs =>
    let digits (ds : List Char) : Option Int :=
      if ds ≠ [] ∧ ds.all Char.isDigit then some (digitsValue ds) else none
    if e = 'e' ∨ e = 'E' then
      match cs with
      | '-' :: ds => (digits ds).map Int.neg
      | '+' :: ds => digits ds
      | ds => digits ds
    else none

/-- Reads digits with an optional point among them, at least one digit, and an optional
exponent. -/
def decimal? (cs : List Char) : Option Decimal :=
  let whole := cs.takeWhile Char.isDigit
  let rest := cs.dropWhile Char.isDigit
  let (fraction, tail) :=
    match rest with
    | '.' :: ds => (ds.takeWhile Char.isDigit, ds.dropWhile Char.isDigit)
    | _ => ([], rest)
  if whole = [] ∧ fraction = [] then none
  else
    (exponent? tail).map fun e => ⟨digitsValue (whole ++ fraction), e - fraction.length⟩

/-- Reads a number without its sign. The words are read in any mix of case. -/
def unsigned? (cs : List Char) : Option Float :=
  let word := String.ofList (cs.map Char.toLower)
  if word = "inf" ∨ word = "infinity" then some (1.0 / 0.0)
  else if word = "nan" then some (0.0 / 0.0)
  else (decimal? cs).map Decimal.toFloat

/-- Reads a number. -/
def read? (text : String) : Option Float :=
  match text.toList with
  | '-' :: cs => (unsigned? cs).map Float.neg
  | '+' :: cs => unsigned? cs
  | cs => unsigned? cs

end Numeral

end Reduct
