import Reduct.Machine
import Reduct.Number.Binary
import Reduct.Operator

/-!
# Operators declared by symbols

A symbol declares an operator by an attribute: `BinaryOp` with a text, a power and perhaps a
truth value for association to the right, or `UnaryOp` with a text and a power. The operators
that can be used at a moment are the default ones and those that visible attributes declare,
symbol by symbol in order; a later declaration of a text wins. A declaration that is malformed
or has an impossible text is passed over and reported.
-/

namespace Reduct

/-- What an attribute says about an operator. -/
structure Declaration where
  text : String
  power : Int
  rightAssoc : Bool := false
deriving Repr, DecidableEq

namespace Declaration

/-- The power closest to an integer. Powers have 32 bits. -/
def powerOf (n : Int) : Int := max Int32.minValue.toInt (min n Int32.maxValue.toInt)

/-- The declaration of a leading operator: a text and an integer. -/
def leading? (attr : Expr) : Option Declaration :=
  match attr.args with
  | [.string text, .number power] =>
    (integer? power).map fun n => { text, power := powerOf n }
  | _ => none

/-- The declaration of a joining operator: a text, an integer, and perhaps a truth value. -/
def joining? (attr : Expr) : Option Declaration :=
  match attr.args with
  | [.string text, .number power] =>
    (integer? power).map fun n => { text, power := powerOf n }
  | [.string text, .number power, flag] =>
    match integer? power, flag.bool? with
    | some n, some rightAssoc => some { text, power := powerOf n, rightAssoc }
    | _, _ => none
  | _ => none

/-- Gives a table the leading operator that an attribute of a symbol declares. -/
def addLeading (t : OperatorTable) (symbol : String) (attr : Expr) :
    Except DeclarationFault OperatorTable :=
  match leading? attr with
  | none => .error .malformed
  | some d => (t.addLeading d.text (OperatorTable.applying d.power symbol)).mapError .refused

/-- Gives a table the joining operator that an attribute of a symbol declares. -/
def addJoining (t : OperatorTable) (symbol : String) (attr : Expr) :
    Except DeclarationFault OperatorTable :=
  match joining? attr with
  | none => .error .malformed
  | some d =>
    (t.addJoining d.text (OperatorTable.combining d.power symbol d.rightAssoc)).mapError .refused

/-- Adds what the attributes of symbols declare, one after the other. The events tell of those
passed over. -/
def addAll (add : OperatorTable → String → Expr → Except DeclarationFault OperatorTable) :
    List (String × Expr) → OperatorTable → OperatorTable × List Event
  | [], t => (t, [])
  | (symbol, attr) :: rest, t =>
    match add t symbol attr with
    | .ok t => addAll add rest t
    | .error fault =>
      let (t, events) := addAll add rest t
      (t, .operatorSkipped attr symbol fault :: events)

end Declaration

/-- The operators that can be used now, and the events that tell of declarations passed over. -/
def Scopes.operators (s : Scopes) : OperatorTable × List Event :=
  let (t, events) := Declaration.addAll Declaration.addJoining (s.withAttribute "BinaryOp") .default
  let (t, events') := Declaration.addAll Declaration.addLeading (s.withAttribute "UnaryOp") t
  (t, events ++ events')

/-- The operators that can be used now; the declarations passed over are reported. -/
def EvalM.operators : EvalM OperatorTable := do
  let (t, events) := (← EvalM.scopes).operators
  events.forM EvalM.report
  return t

end Reduct
