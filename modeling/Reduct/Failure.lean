import Reduct.Regex.Fault

/-!
# Failures

Why an evaluation can fail. A failure does not stop the session: it becomes the message of an
`Abort` expression, in these words.
-/

namespace Reduct

/-- Why an evaluation fails. -/
inductive Failure where
  /-- Too many evaluations are open inside each other. -/
  | recursionLimit
  /-- An expression does not settle within the steps allowed. -/
  | iterationLimit
  /-- A function without exactly a parameter part and a body. -/
  | functionArity
  /-- A parameter part that is a number or a string. -/
  | functionParameters
  /-- Arguments that do not fit the parameters of a function. -/
  | functionArguments
  /-- Lists of different lengths to thread over. -/
  | unequalLists
  /-- Fewer arguments than the operation takes at least. -/
  | insufficientArguments
  /-- A rule for what no symbol owns. -/
  | unsupportedTarget
  | attributesOfNonSymbol
  | definitionOfNonSymbol
  | unknownSymbol
  | logSwitch
  /-- A replacement whose rules are not in an application. -/
  | replacementList (form : String)
  /-- A scope whose local symbols are not in an application. -/
  | localList (form : String)
  /-- An operation on the arguments of something that has none. -/
  | listOperand (operation : String)
  | listAndItem (operation : String)
  | concatOperands
  | substringOperands
  | substringRange
  | splitOperands
  | matchOperands
  /-- A pattern that cannot be searched for. -/
  | searchPattern (pattern : String) (error : Regex.Error)
  | introduceOperand
deriving Repr, DecidableEq

/-- The failure in words. -/
def Failure.message : Failure → String
  | .recursionLimit => "Recursion limit hit"
  | .iterationLimit => "Iterations limit hit"
  | .functionArity => "Func requires two arguments"
  | .functionParameters => "Invalid lambda argument spec"
  | .functionArguments => "Inconsistent lambda application"
  | .unequalLists => "Listable arguments have inconsistent lengths"
  | .insufficientArguments => "Insufficient arguments number"
  | .unsupportedTarget => "Unsupported Set target"
  | .attributesOfNonSymbol => "Attributes could be bound only to symbols"
  | .definitionOfNonSymbol => "Definition requires a symbol"
  | .unknownSymbol => "Unknown symbol"
  | .logSwitch => "Log requires True or False"
  | .replacementList form => form ++ " requires list of replacements"
  | .localList form => form ++ " requires list of local symbols"
  | .listOperand operation => operation ++ " requires list"
  | .listAndItem operation => operation ++ " requires list and item"
  | .concatOperands => "Concat requires list of strings"
  | .substringOperands => "Substring requires string and range spec"
  | .substringRange => "Substring range is out of bounds"
  | .splitOperands => "Split requires list of strings"
  | .matchOperands => "Match requires string and pattern"
  | .searchPattern pattern error => "Invalid pattern: " ++ error.report pattern
  | .introduceOperand => "Introduce requires string"

end Reduct
