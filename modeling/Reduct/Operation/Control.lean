import Reduct.Operation
import Reduct.Replace

/-!
# Order and scope

The operations that evaluate their arguments themselves, one after the other or in a scope of
their own, and the switch of the record of steps.
-/

namespace Reduct.Operation.Control

/-- Evaluates expressions in order and gives the last value, or `last` if there is no
expression. The first failure ends the sequence. -/
def sequence (evaluate : Expr → EvalM Expr) (last : Expr) : List Expr → EvalM Expr
  | [] => return last
  | e :: es => do
    let value ← evaluate e
    if value.isAbort then return value
    sequence evaluate value es

/-- The symbols among the arguments of an application, which a scope declares as local. -/
def localSymbols (form : String) : Expr → Except Failure (List String)
  | .apply _ items _ => .ok (items.filterMap Expr.symbol?)
  | _ => .error (.localList form)

/-- Evaluates a body in order. -/
def seq (evaluate : Expr → EvalM Expr) (body : List Expr) : EvalM (Except Failure Expr) :=
  return .ok (← sequence evaluate .null body)

/-- Evaluates a body in order, in a scope with local symbols. -/
def block (evaluate : Expr → EvalM Expr) : List Expr → EvalM (Except Failure Expr)
  | locals :: body => do
    match localSymbols "Block" locals with
    | .error failure => return .error failure
    | .ok names => return .ok (← EvalM.inScope names (sequence evaluate .null body))
  | [] => return .error .insufficientArguments

/-- The name of the copy with number `n` of a local symbol. -/
def freshName (name : String) (n : Nat) : String := name ++ "$" ++ toString n

/-- Gives the local symbols of a body fresh names. No scope is opened, so that functions made
in the body go on to refer to copies of their own. -/
def localize : List Expr → EvalM (Except Failure Expr)
  | locals :: body => do
    match localSymbols "Module" locals with
    | .error failure => return .error failure
    | .ok names =>
      let n ← EvalM.drawFresh
      let renames := names.map fun name => Rule.mk (.sym name) (.sym (freshName name n))
      let value := Expr.call "Seq" (body.map fun e => e.replaceAll renames)
      EvalM.noteRenaming (locals :: body) n value
      return .ok value
  | [] => return .error .insufficientArguments

/-- Turns the record of steps on or off. -/
def log : List Expr → EvalM (Except Failure Expr)
  | switch :: _ => do
    match switch.bool? with
    | some on =>
      EvalM.setTracing on
      return .ok .null
    | none => return .error .logSwitch
  | [] => return .error .insufficientArguments

/-- The operations on order and scope. -/
def operations : List (String × Operation) := [
  ("Seq", ⟨0, seq⟩),
  ("Block", ⟨2, block⟩),
  ("Module", .ofEffect 2 localize),
  ("Log", .ofEffect 1 log)]

end Reduct.Operation.Control
