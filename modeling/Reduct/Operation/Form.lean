import Reduct.Operation
import Reduct.Replace

/-!
# The form of expressions

The operations that mark an expression as held, clear the marks, and replace inside it by a
list of rules.
-/

namespace Reduct.Operation.Form

/-- Marks an expression as held. -/
def hold : List Expr → Except Failure Expr
  | e :: _ => .ok e.holdForm
  | [] => .error .insufficientArguments

/-- Clears the marks of an expression. -/
def releaseHold : List Expr → Except Failure Expr
  | e :: _ => .ok e.releaseHold
  | [] => .error .insufficientArguments

/-- A rule from an entry with a pattern and a value. -/
def rule? (entry : Expr) : Option Rule :=
  match entry.args with
  | pattern :: value :: _ => some ⟨pattern, value⟩
  | _ => none

/-- The rules given by the arguments of an application; those that are no entries are passed
over. -/
def rules (form : String) : Expr → Except Failure (List Rule)
  | .apply _ entries _ => .ok (entries.filterMap rule?)
  | _ => .error (.replacementList form)

/-- Replaces from the top. -/
def replace (s : Sharing) : List Expr → Except Failure Expr
  | e :: entries :: _ => (rules "Replace" entries).map fun rules => e.replace rules s
  | _ => .error .insufficientArguments

/-- Replaces from the bottom. -/
def replaceAll (s : Sharing) : List Expr → Except Failure Expr
  | e :: entries :: _ => (rules "ReplaceAll" entries).map fun rules => e.replaceAll rules s
  | _ => .error .insufficientArguments

/-- The operations on the form of expressions. -/
def operations : List (String × Operation) := [
  ("Hold", .ofFunction 1 hold),
  ("ReleaseHold", .ofFunction 1 releaseHold),
  ("Replace", .ofRewriting 2 replace),
  ("ReplaceAll", .ofRewriting 2 replaceAll)]

end Reduct.Operation.Form
