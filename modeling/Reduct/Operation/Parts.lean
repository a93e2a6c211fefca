import Reduct.Operation

/-!
# The parts of applications

The operations on the arguments of an application. Lists are the usual case, but any head
will do, and the result keeps it.
-/

namespace Reduct.Operation.Parts

/-- Puts items after the arguments. -/
def append : List Expr → Except Failure Expr
  | .apply head args _ :: items => .ok (.app head (args ++ items))
  | _ :: _ => .error (.listAndItem "Append")
  | [] => .error .insufficientArguments

/-- Puts items before the arguments. -/
def prepend : List Expr → Except Failure Expr
  | .apply head args _ :: items => .ok (.app head (items ++ args))
  | _ :: _ => .error (.listAndItem "Prepend")
  | [] => .error .insufficientArguments

/-- An operation on the head and the arguments of an application. -/
def onParts (name : String) (f : Expr → List Expr → Expr) : List Expr → Except Failure Expr
  | .apply head args _ :: _ => .ok (f head args)
  | _ :: _ => .error (.listOperand name)
  | [] => .error .insufficientArguments

/-- How many arguments an application has, or characters a string. -/
def length : List Expr → Except Failure Expr
  | .apply _ args _ :: _ => .ok (.number (.ofNat args.length))
  | .string text :: _ => .ok (.number (.ofNat text.toList.length))
  | _ :: _ => .error (.listOperand "Length")
  | [] => .error .insufficientArguments

/-- The operations on the parts of applications. -/
def operations : List (String × Operation) := [
  ("Append", .ofFunction 2 append),
  ("Prepend", .ofFunction 2 prepend),
  ("First", .ofFunction 1 (onParts "First" fun _ args => args.head?.getD .null)),
  ("Rest", .ofFunction 1 (onParts "Rest" fun head args => .app head args.tail)),
  ("Last", .ofFunction 1 (onParts "Last" fun _ args => args.getLast?.getD .null)),
  ("Head", .ofFunction 1 (onParts "Head" fun head _ => head)),
  ("Length", .ofFunction 1 length)]

end Reduct.Operation.Parts
