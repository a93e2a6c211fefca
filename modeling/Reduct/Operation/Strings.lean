import Reduct.Operation
import Reduct.Text.Blank
import Reduct.Text.Word

/-!
# Strings

The operations on texts, apart from the search for patterns. Places and lengths are counted in
characters.
-/

namespace Reduct.Operation.Strings

/-! ## Joining and cutting -/

/-- Joins strings. -/
def concat (args : List Expr) : Except Failure Expr :=
  match args.mapM Expr.string? with
  | some texts => .ok (.string (String.join texts))
  | none => .error .concatOperands

/-- A number of characters; a fraction is cut off. -/
def count (x : Float) : Nat := x.toUInt64.toNat

/-- The characters from a place on, as many as asked for. -/
def substring : List Expr → Except Failure Expr
  | .string text :: .number start :: .number length :: _ =>
    let cs := text.toList
    if start < 0 || length < 0 || start + length > Float.ofNat cs.length then
      .error .substringRange
    else .ok (.string (String.ofList ((cs.drop (count start)).take (count length))))
  | _ :: _ :: _ :: _ => .error .substringOperands
  | _ => .error .insufficientArguments

/-! ## Splitting -/

/-- The first separator listed that stands at the front; an empty one never does. -/
def separator? (separators : List (List Char)) (cs : List Char) : Option (List Char) :=
  separators.find? fun s => !s.isEmpty && s.isPrefixOf cs

/-- The pieces of a text between separators, without the empty ones. `piece` holds the
characters of the first piece read so far, the last first. -/
def pieces (separators : List (List Char)) (piece : List Char) (cs : List Char) :
    List (List Char) :=
  match cs with
  | [] => if piece.isEmpty then [] else [piece.reverse]
  | c :: cs =>
    match separator? separators (c :: cs) with
    | none => pieces separators (c :: piece) cs
    | some s =>
      -- A separator takes one character at least; `s.length - 1` come after the first.
      let others := pieces separators [] (cs.drop (s.length - 1))
      if piece.isEmpty then others else piece.reverse :: others
termination_by cs.length
decreasing_by all_goals simp only [List.length_drop, List.length_cons]; omega

/-- The expressions that name separators: the arguments after the text, or the items of a list
that is the only one. -/
def separatorExprs : List Expr → List Expr
  | [e] => if e.isCall "List" then e.args else [e]
  | es => es

/-- Splits a string at separators. -/
def split : List Expr → Except Failure Expr
  | .string text :: others =>
    match (separatorExprs others).mapM Expr.string? with
    | some separators =>
      let found := pieces (separators.map String.toList) [] text.toList
      .ok (.list (found.map fun piece => .string (String.ofList piece)))
    | none => .error .splitOperands
  | _ :: _ => .error .splitOperands
  | [] => .error .insufficientArguments

/-! ## Reading -/

/-- Is a text spelled like a symbol? -/
def isSymbolText (cs : List Char) : Bool := !cs.isEmpty && cs.all Text.isWord

/-- Turns the text of a finite number, which white space may surround, into the number, and a
text spelled like a symbol into the symbol. Any other text is left in the call. -/
def introduce : List Expr → Except Failure Expr
  | .string text :: others =>
    let read := (Numeral.read? (String.ofList (Text.trim text.toList))).filter Float.isFinite
    match read with
    | some value => .ok (.number value)
    | none =>
      if isSymbolText text.toList then .ok (.sym text)
      else .ok (.call "Introduce" (.string text :: others))
  | _ :: _ => .error .introduceOperand
  | [] => .error .insufficientArguments

/-- The operations on strings, apart from the search. -/
def operations : List (String × Operation) := [
  ("Concat", .ofFunction 2 concat),
  ("Substring", .ofFunction 3 substring),
  ("Split", .ofFunction 2 split),
  ("Introduce", .ofFunction 1 introduce)]

end Reduct.Operation.Strings
