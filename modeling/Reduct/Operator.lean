import Reduct.Expr.Basic
import Reduct.Table
import Reduct.Token.Scan

/-!
# Operators

An operator is a text with a leading form, a joining form, or both. A form has a power, which
says how tightly it binds, and builds an expression from its operands. The table of operators
can grow at any time; a text that a built-in token would claim is refused.
-/

namespace Reduct

/-- The form of an operator that stands before its operand. -/
structure LeadingOperator where
  power : Int
  build : Expr → Expr

/-- The form of an operator that stands between two operands. One that associates to the right
takes the same operator again into its right operand. -/
structure JoiningOperator where
  power : Int
  rightAssoc : Bool
  build : Expr → Expr → Expr

/-- The operators a source text can use. -/
structure OperatorTable where
  leading : Table LeadingOperator := {}
  joining : Table JoiningOperator := {}

namespace OperatorTable

/-- Refuses a text that cannot be an operator. -/
def checkText (text : String) : Except SyntaxError Unit :=
  if text.isEmpty || Token.clashesWithBuiltin text then .error (.invalidOperator text)
  else .ok ()

/-- Gives the text a leading form, in place of the one it may have. -/
def addLeading (t : OperatorTable) (text : String) (op : LeadingOperator) :
    Except SyntaxError OperatorTable := do
  checkText text
  return { t with leading := t.leading.put text op }

/-- Gives the text a joining form, in place of the one it may have. -/
def addJoining (t : OperatorTable) (text : String) (op : JoiningOperator) :
    Except SyntaxError OperatorTable := do
  checkText text
  return { t with joining := t.joining.put text op }

/-- A leading operator that applies a symbol to its operand. -/
def applying (power : Int) (name : String) : LeadingOperator := ⟨power, fun x => .call name [x]⟩

/-- A joining operator that applies a symbol to its operands. -/
def combining (power : Int) (name : String) (rightAssoc : Bool) : JoiningOperator :=
  ⟨power, rightAssoc, fun a b => .call name [a, b]⟩

/-- All operator texts, in ascending order. -/
def texts (t : OperatorTable) : List String :=
  ((t.leading.map fun _ => ()).merge (t.joining.map fun _ => ())).keys

mutual

/-- The items of a list, with the items of lists inside it in their place; anything else is a
single item. -/
def listItems : Expr → List Expr
  | .apply (.symbol name held) args mark =>
    if name = "List" then listItemsAll args else [.apply (.symbol name held) args mark]
  | e => [e]

/-- The items of several expressions, one after the other. -/
def listItemsAll : List Expr → List Expr
  | [] => []
  | e :: es => listItems e ++ listItemsAll es

end

/-- The negative of an operand: of a number it is a number. -/
def negate : Expr → Expr
  | .number value => .number (-value)
  | e => .call "Sub" [.number 0, e]

/-- The operators every table starts from. -/
def default : OperatorTable where
  leading := ⟨[
    ("!", applying 15 "Not"),
    ("+", ⟨100, id⟩),
    ("-", ⟨100, negate⟩),
    ("~", applying 0 "Pattern")]⟩
  joining := ⟨[
    ("!=", combining 9 "NotEqual" false),
    ("%", combining 30 "Mod" false),
    ("&&", combining 7 "And" false),
    ("*", combining 30 "Mul" false),
    ("**", combining 40 "Power" true),
    ("+", combining 20 "Sum" false),
    ("-", combining 20 "Sub" false),
    ("-->", combining (-1) "Func" true),
    ("/", combining 30 "Div" false),
    (":=", combining (-100) "Delayed" false),
    (";", combining (-101) "Seq" false),
    ("<", combining 10 "Less" false),
    ("<=", combining 10 "LessOrEqual" false),
    ("=", combining (-100) "Set" false),
    ("==", combining 9 "Equal" false),
    (">", combining 10 "Greater" false),
    (">=", combining 10 "GreaterOrEqual" false),
    ("^", combining 8 "Xor" false),
    ("||", combining 6 "Or" false),
    ("~", ⟨0, false, fun a b => .list (listItems a ++ listItems b)⟩)]⟩

end OperatorTable

end Reduct
