import Reduct.Operation

/-!
# Output

The operations that report expressions to whoever listens to the session.
-/

namespace Reduct.Operation.Output

/-- Reports an expression and gives it back. -/
def echo : List Expr → EvalM (Except Failure Expr)
  | e :: _ => do
    EvalM.report (.echoed e)
    return .ok e
  | [] => return .error .insufficientArguments

/-- Reports expressions. -/
def print (args : List Expr) : EvalM (Except Failure Expr) := do
  args.forM fun e => EvalM.report (.printed e)
  return .ok .null

/-- The operations that report expressions. -/
def operations : List (String × Operation) := [
  ("Echo", .ofEffect 1 echo),
  ("Print", .ofEffect 0 print)]

end Reduct.Operation.Output
