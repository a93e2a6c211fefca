/-!
# Tokens

A source text is cut into tokens of nine kinds; the white space and the comments between them
form a tenth kind that is dropped. A token knows its text and the byte at which it starts.
-/

namespace Reduct

/-- The kinds of pieces a source text is cut into. -/
inductive Token.Kind where
  | number
  | symbol
  | string
  /-- White space or a comment. -/
  | layout
  | comma
  | openBracket
  | openGroup
  | closeBracket
  | closeGroup
  | operator
deriving Repr, DecidableEq

/-- The word diagnostics use for a kind. -/
def Token.Kind.label : Token.Kind → String
  | .number => "Number"
  | .symbol => "Symbol"
  | .string => "String"
  | .layout => "Whitespace"
  | .comma => "Comma"
  | .openBracket => "OpenBracket"
  | .openGroup => "OpenGroup"
  | .closeBracket => "CloseBracket"
  | .closeGroup => "CloseGroup"
  | .operator => "Operator"

/-- A piece of source text: what kind it is, its characters, and where it starts. -/
structure Token where
  kind : Token.Kind
  text : String
  offset : Nat
deriving Repr, DecidableEq

end Reduct
