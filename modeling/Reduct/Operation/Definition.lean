import Reduct.Operation

/-!
# What symbols mean

The operations that declare and withdraw rules and attributes, and the one that shows
everything declared for a symbol.
-/

namespace Reduct.Operation.Definition

/-- The value of an effect, or the failure in it. -/
def done {α : Type} : Except Failure α → Except Failure Expr
  | .ok _ => .ok .null
  | .error failure => .error failure

/-! ## Rules -/

/-- Declares a rule and gives its value back. The value comes evaluated. -/
def assign : List Expr → EvalM (Except Failure Expr)
  | pattern :: value :: _ => do
    match ← EvalM.setRule ⟨pattern, value⟩ with
    | .ok () => return .ok value
    | .error failure => return .error failure
  | _ => return .error .insufficientArguments

/-- Declares a rule. The value comes as it was written. -/
def delay : List Expr → EvalM (Except Failure Expr)
  | pattern :: value :: _ => return done (← EvalM.setRule ⟨pattern, value⟩)
  | _ => return .error .insufficientArguments

/-- Withdraws a rule. -/
def clear : List Expr → EvalM (Except Failure Expr)
  | pattern :: _ => return done (← EvalM.clearRule pattern)
  | _ => return .error .insufficientArguments

/-! ## Attributes -/

/-- Gives a symbol attributes. -/
def setAttributes : List Expr → EvalM (Except Failure Expr)
  | .symbol name _ :: attributes => do
    EvalM.modifyScopes fun s => s.setAttributes name attributes
    return .ok .null
  | _ :: _ => return .error .attributesOfNonSymbol
  | [] => return .error .insufficientArguments

/-- The list of the attributes of a symbol. -/
def getAttributes : List Expr → EvalM (Except Failure Expr)
  | .symbol name _ :: _ => return .ok (.list ((← EvalM.scopes).attributes name))
  | _ :: _ => return .error .attributesOfNonSymbol
  | [] => return .error .insufficientArguments

/-- Takes attributes away from a symbol: those named, or all when none is named. -/
def clearAttributes : List Expr → EvalM (Except Failure Expr)
  | .symbol name _ :: keys => do
    EvalM.modifyScopes fun s => s.clearAttributes name (keys.filterMap Expr.owner?)
    return .ok .null
  | _ :: _ => return .error .attributesOfNonSymbol
  | [] => return .error .insufficientArguments

/-! ## Everything declared -/

/-- One version of a symbol as an expression. -/
def ofVersion (version : Version) : Expr :=
  .call "Entry" [
    .call "Patterns" (version.rules.rules.map fun rule => .call "Entry" [rule.pattern, rule.value]),
    .call "Attributes" version.attributes.values]

/-- The visible versions of a symbol, newest first. The result is held, so that the patterns
in it are not evaluated. -/
def describe : List Expr → EvalM (Except Failure Expr)
  | .symbol name held :: _ => do
    match (← EvalM.scopes).chain name with
    | [] => return .ok ((Expr.symbol name held).abort Failure.unknownSymbol.message)
    | versions =>
      return .ok (Expr.call "Symbol" [.symbol name held, .list (versions.map ofVersion)]).holdForm
  | _ :: _ => return .error .definitionOfNonSymbol
  | [] => return .error .insufficientArguments

/-- The operations on definitions. -/
def operations : List (String × Operation) := [
  ("Set", .ofEffect 2 assign),
  ("Delayed", .ofEffect 2 delay),
  ("Clear", .ofEffect 1 clear),
  ("SetAttrs", .ofEffect 2 setAttributes),
  ("GetAttrs", .ofEffect 1 getAttributes),
  ("ClearAttrs", .ofEffect 1 clearAttributes),
  ("Definition", .ofEffect 1 describe)]

end Reduct.Operation.Definition
