import Reduct.Text.Diagnostic
import Reduct.Text.Position
import Reduct.Token

/-!
# Syntax errors

What can be wrong with a source text or with the declaration of an operator, and how it is
put to the user: as a message, and as a message with the line it is about.
-/

namespace Reduct

/-- The two places an operator can stand in: before its operand, or between two. -/
inductive Form where
  | leading
  | joining
deriving Repr, DecidableEq

/-- The word diagnostics use for a form. -/
def Form.label : Form → String
  | .leading => "prefix"
  | .joining => "infix"

/-- What is wrong with a source text or an operator declaration. -/
inductive SyntaxError where
  /-- No token starts at the offset; `near` is the text from there. -/
  | lexical (offset : Nat) (near : String)
  /-- The text ends inside an expression. -/
  | unexpectedEnd
  /-- A token of one kind where only another kind can stand. -/
  | unexpected (found expected : Token.Kind) (offset : Nat)
  /-- No expression starts with the token. -/
  | noLeadingForm (token : String) (offset : Nat)
  /-- The operator has no such form. -/
  | operatorForm (operator : String) (form : Form) (offset : Nat)
  /-- The token follows a complete expression. -/
  | trailing (token : String) (offset : Nat)
  | invalidNumber (literal : String)
  | invalidOperator (text : String)
deriving Repr, DecidableEq

namespace SyntaxError

/-- The byte offset an error is about. -/
def offset? : SyntaxError → Option Nat
  | .lexical offset _ => some offset
  | .unexpected _ _ offset => some offset
  | .noLeadingForm _ offset => some offset
  | .operatorForm _ _ offset => some offset
  | .trailing _ offset => some offset
  | .unexpectedEnd | .invalidNumber _ | .invalidOperator _ => none

/-- The error in words. -/
def message : SyntaxError → String
  | .lexical offset near =>
      "Unrecognized input at " ++ toString offset ++ " near " ++ Text.diagnostic near
  | .unexpectedEnd => "Unexpected end of expression"
  | .unexpected found expected offset =>
      "Unexpected " ++ found.label ++ " while expecting " ++ expected.label ++ " at " ++
        toString offset
  | .noLeadingForm token offset =>
      "Unexpected leading expression syntax " ++ Text.diagnostic token ++ " at " ++
        toString offset
  | .operatorForm operator form offset =>
      "Operator " ++ Text.diagnostic operator ++ " cannot be applied in " ++ form.label ++
        " form at " ++ toString offset
  | .trailing token offset =>
      "Unexpected trailing " ++ Text.diagnostic token ++ " at " ++ toString offset
  | .invalidNumber literal => "Invalid number literal " ++ Text.diagnostic literal
  | .invalidOperator text => "Invalid operator token " ++ Text.diagnostic text

/-- A run of blanks. -/
def blanks (n : Nat) : String := String.ofList (List.replicate n ' ')

/-- The error with the source line it is about and a caret under the place, when it is about
a place. -/
def inContext (error : SyntaxError) (source : String) : String :=
  match error.offset? with
  | none => "Syntax error: " ++ error.message
  | some offset =>
    let place := Text.position source offset
    "Error at line " ++ toString place.line ++ ", column " ++ toString place.column ++ ": " ++
      error.message ++ "\n  " ++ Text.lineAt source place.line ++ "\n  " ++
      blanks (place.column - 1) ++ "^"

end SyntaxError

end Reduct
