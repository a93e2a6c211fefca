import Reduct.Expr.Basic
import Reduct.Number.Numeral
import Reduct.Text.Quoted

/-!
# The text of an expression

An expression is written as an atom, or as its head followed by the arguments in brackets with
a comma and a space between them. Operators play no part, and neither do hold marks. Text
written this way is read back by the parser as the same expression, as long as the symbols
have names the parser accepts.
-/

namespace Reduct.Expr

mutual

/-- The characters of an expression. -/
def chars : Expr → List Char
  | .number value => Numeral.chars value
  | .string text => Text.quotedChars text.toList
  | .symbol name _ => name.toList
  | .apply head args _ => head.chars ++ '[' :: (argChars args ++ [']'])

/-- The characters of the arguments, separated. -/
def argChars : List Expr → List Char
  | [] => []
  | [e] => e.chars
  | e :: es => e.chars ++ ',' :: ' ' :: argChars es

end

/-- The text of an expression. -/
def render (e : Expr) : String := String.ofList e.chars

/-- The text of an expression with the hold mark of its top node shown. -/
def renderMarked (e : Expr) : String :=
  if e.isHeld then "Held(" ++ e.render ++ ")" else e.render

end Reduct.Expr
