import Reduct.SyntaxError
import Reduct.Text.Blank
import Reduct.Text.Word

/-!
# Scanning

At each place of a source text the built-in kinds are tried in a fixed order, and the first
that takes at least one character makes the next piece. Where none does, the longest of the
operator texts that stands there makes it. Where none of those stands either, scanning fails.
Pieces of layout are dropped.
-/

namespace Reduct.Token

open Text

/-! ## How much a kind takes -/

/-- The length of a number at the front: digits, with a point among them only if digits stand
on both its sides. -/
def numberLength (cs : List Char) : Nat :=
  let whole := (cs.takeWhile Char.isDigit).length
  match cs.dropWhile Char.isDigit with
  | '.' :: ds =>
    let fraction := (ds.takeWhile Char.isDigit).length
    if whole = 0 ∨ fraction = 0 then whole else whole + 1 + fraction
  | _ => whole

/-- The length of a string literal after its opening quote: up to the first quote without a
backslash before it. A backslash takes the next character with it, except a line feed. -/
def closingLength? : List Char → Option Nat
  | [] => none
  | '"' :: _ => some 1
  | '\\' :: c :: cs => if c = '\n' then none else (closingLength? cs).map (· + 2)
  | ['\\'] => none
  | _ :: cs => (closingLength? cs).map (· + 1)

/-- The length of a string literal at the front. -/
def stringLength : List Char → Nat
  | '"' :: cs =>
    match closingLength? cs with
    | some n => n + 1
    | none => 0
  | _ => 0

/-- The length of layout at the front: a run of white space, or a comment from two slashes to
the end of the line. -/
def layoutLength : List Char → Nat
  | '/' :: '/' :: cs => (cs.takeWhile (· != '\n')).length + 2
  | cs => (cs.takeWhile isBlank).length

/-- The length of one character at the front. -/
def charLength (c : Char) (cs : List Char) : Nat := if cs.head? = some c then 1 else 0

/-- How many characters a built-in kind takes at the front; zero if it does not stand there. -/
def Kind.length : Kind → List Char → Nat
  | .number, cs => numberLength cs
  | .symbol, cs => (cs.takeWhile isWord).length
  | .string, cs => stringLength cs
  | .layout, cs => layoutLength cs
  | .comma, cs => charLength ',' cs
  | .openBracket, cs => charLength '[' cs
  | .openGroup, cs => charLength '(' cs
  | .closeBracket, cs => charLength ']' cs
  | .closeGroup, cs => charLength ')' cs
  | .operator, _ => 0

/-- The built-in kinds in the order in which they are tried. -/
def builtins : List Kind :=
  [.number, .symbol, .string, .layout, .comma, .openBracket, .openGroup, .closeBracket,
   .closeGroup]

/-- The built-in kind that stands at the front, and its length. -/
def builtin? (cs : List Char) : Option (Kind × Nat) :=
  builtins.findSome? fun kind => if kind.length cs = 0 then none else some (kind, kind.length cs)

/-- Would a built-in kind claim the start of the text? An operator cannot be spelled so. -/
def clashesWithBuiltin (text : String) : Bool := (builtin? text.toList).isSome

/-! ## Cutting a text -/

/-- The piece that stands at the front, given the operator texts from the longest on: its kind
and its length, which is not zero. -/
def piece? (operators : List (List Char)) (cs : List Char) : Option (Kind × Nat) :=
  builtin? cs <|>
    (operators.find? fun op => !op.isEmpty && op.isPrefixOf cs).map fun op =>
      (.operator, op.length)

/-- The operator texts from the longest on, by bytes; those of one length keep their order. -/
def longestFirst (operators : List String) : List (List Char) :=
  (operators.map String.toList).mergeSort fun a b => byteWidth b ≤ byteWidth a

/-- Cuts the characters that start at the byte `offset`. -/
def scan (operators : List (List Char)) (offset : Nat) (cs : List Char) :
    Except SyntaxError (List Token) :=
  match cs with
  | [] => .ok []
  | c :: cs =>
    match piece? operators (c :: cs) with
    | none => .error (.lexical offset (String.ofList ((c :: cs).take 12)))
    | some (kind, length) =>
      -- A piece takes one character at least; `length - 1` come after the first.
      let rest := cs.drop (length - 1)
      let text := c :: cs.take (length - 1)
      match scan operators (offset + byteWidth text) rest with
      | .error e => .error e
      | .ok tokens =>
        .ok (if kind = .layout then tokens else ⟨kind, String.ofList text, offset⟩ :: tokens)
termination_by cs.length
decreasing_by simp only [List.length_drop, List.length_cons]; omega

/-- Cuts a source text into tokens, with the given operator texts. -/
def tokenize (operators : List String) (source : String) : Except SyntaxError (List Token) :=
  scan (longestFirst operators) 0 source.toList

end Reduct.Token
