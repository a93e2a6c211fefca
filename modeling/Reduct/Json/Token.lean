import Reduct.Text.Hexadecimal

/-!
# JSON tokens

The pieces of a JSON text: punctuation, words, numbers and strings. Of a number only its value
matters, and only when it is a natural number written in digits alone. Of a string the text
matters, unless an escape in it names no character.
-/

namespace Reduct.Json

/-- A piece of a JSON text. -/
inductive Token where
  | openBrace
  | closeBrace
  | openBracket
  | closeBracket
  | comma
  | colon
  | null
  | bool (value : Bool)
  /-- A number, with its value if it is written as a natural number. -/
  | number (natural? : Option Nat)
  /-- A string, with its text if every escape in it names a character. -/
  | string (text? : Option String)
deriving Repr, DecidableEq

namespace Token

/-- White space between tokens. -/
def isBlank (c : Char) : Bool := c == ' ' || c == '\n' || c == '\t' || c == '\r'

/-! ## Numbers -/

/-- The length of a run of digits at the front. -/
def digitRun (cs : List Char) : Nat := (cs.takeWhile Char.isDigit).length

/-- The length of a fraction at the front: a point and digits. -/
def fractionLength : List Char → Nat
  | '.' :: cs => if digitRun cs = 0 then 0 else digitRun cs + 1
  | _ => 0

/-- The length of an exponent at the front: a letter `e`, a sign if there is one, and digits. -/
def exponentLength : List Char → Nat
  | e :: cs =>
    if e = 'e' ∨ e = 'E' then
      match cs with
      | '+' :: ds => if digitRun ds = 0 then 0 else digitRun ds + 2
      | '-' :: ds => if digitRun ds = 0 then 0 else digitRun ds + 2
      | ds => if digitRun ds = 0 then 0 else digitRun ds + 1
    else 0
  | [] => 0

/-- The length of the digits before the point: a zero alone, or a run that starts with none. -/
def wholeLength : List Char → Nat
  | '0' :: _ => 1
  | cs => digitRun cs

/-- The number at the front: its length, which is zero if there is none, and its value. -/
def numeral (cs : List Char) : Nat × Option Nat :=
  let sign := if cs.head? = some '-' then 1 else 0
  let digits := wholeLength (cs.drop sign)
  if digits = 0 then (0, none)
  else
    let fraction := fractionLength (cs.drop (sign + digits))
    let exponent := exponentLength (cs.drop (sign + digits + fraction))
    let value := ((cs.take digits).foldl (fun n d => 10 * n + (d.toNat - '0'.toNat)) 0)
    (sign + digits + fraction + exponent,
      if sign + fraction + exponent = 0 then some value else none)

/-! ## Strings -/

/-- The value of four hexadecimal digits. -/
def hex4? (a b c d : Char) : Option Nat := do
  let a ← Text.hexValue? a
  let b ← Text.hexValue? b
  let c ← Text.hexValue? c
  let d ← Text.hexValue? d
  return ((a * 16 + b) * 16 + c) * 16 + d

/-- What a backslash and a letter stand for. -/
def escaped? : Char → Option Char
  | '"' => some '"'
  | '\\' => some '\\'
  | '/' => some '/'
  | 'b' => some '\x08'
  | 'f' => some '\x0c'
  | 'n' => some '\n'
  | 'r' => some '\r'
  | 't' => some '\t'
  | _ => none

/-- The inside of a string after its opening quote: each character or numbered 16-bit unit, and
the number of characters it is written with, the closing quote included. -/
def stringUnits? : List Char → Option (List (Char ⊕ Nat) × Nat)
  | [] => none
  | '"' :: _ => some ([], 1)
  | '\\' :: 'u' :: a :: b :: c :: d :: cs =>
    match hex4? a b c d with
    | none => none
    | some unit => (stringUnits? cs).map fun (units, n) => (.inr unit :: units, n + 6)
  | '\\' :: c :: cs =>
    match escaped? c with
    | none => none
    | some e => (stringUnits? cs).map fun (units, n) => (.inl e :: units, n + 2)
  | c :: cs =>
    if c = '\\' ∨ c.toNat < 0x20 then none
    else (stringUnits? cs).map fun (units, n) => (.inl c :: units, n + 1)

/-- The characters that the units stand for: a pair of surrogates is one character, and a
surrogate without its partner is none. -/
def join? : List (Char ⊕ Nat) → Option (List Char)
  | [] => some []
  | .inl c :: units => (join? units).map (c :: ·)
  | .inr high :: .inr low :: units =>
    if 0xD800 ≤ high ∧ high < 0xDC00 then
      if 0xDC00 ≤ low ∧ low < 0xE000 then
        (join? units).map (Char.ofNat (0x10000 + (high - 0xD800) * 0x400 + (low - 0xDC00)) :: ·)
      else none
    else if 0xDC00 ≤ high ∧ high < 0xE000 then none
    else (join? (.inr low :: units)).map (Char.ofNat high :: ·)
  | .inr unit :: units =>
    if 0xD800 ≤ unit ∧ unit < 0xE000 then none else (join? units).map (Char.ofNat unit :: ·)

/-! ## Cutting a text -/

/-- The words of the format. -/
def words : List (List Char × Token) :=
  [(['n', 'u', 'l', 'l'], .null), (['t', 'r', 'u', 'e'], .bool true),
   (['f', 'a', 'l', 's', 'e'], .bool false)]

/-- The token that stands at the front, and its length. -/
def atFront? (cs : List Char) : Option (Token × Nat) :=
  match cs with
  | '{' :: _ => some (.openBrace, 1)
  | '}' :: _ => some (.closeBrace, 1)
  | '[' :: _ => some (.openBracket, 1)
  | ']' :: _ => some (.closeBracket, 1)
  | ',' :: _ => some (.comma, 1)
  | ':' :: _ => some (.colon, 1)
  | '"' :: cs =>
    (stringUnits? cs).map fun (units, n) => (.string ((join? units).map String.ofList), n + 1)
  | cs =>
    match words.find? fun word => word.1.isPrefixOf cs with
    | some (word, token) => some (token, word.length)
    | none =>
      match numeral cs with
      | (0, _) => none
      | (length, value) => some (.number value, length)

/-- Cuts a JSON text into tokens. -/
def ofText? (cs : List Char) : Option (List Token) :=
  match cs with
  | [] => some []
  | c :: cs =>
    if isBlank c then ofText? cs
    else
      match atFront? (c :: cs) with
      | none => none
      | some (token, length) => (ofText? (cs.drop (length - 1))).map (token :: ·)
termination_by cs.length
decreasing_by all_goals simp only [List.length_drop, List.length_cons]; omega

end Token

end Reduct.Json
