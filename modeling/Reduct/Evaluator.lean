import Reduct.Attributes
import Reduct.Config
import Reduct.Operation

/-!
# Evaluation

Evaluating an expression takes steps until it settles: until a step changes nothing, or its
result is held or has failed. A step on an application evaluates the head, then the arguments
that the attributes of the head let it, arranges them as the attributes say, and then tries in
this order: threading over lists, the rules of the head symbol, the application of a function,
the operation of the head symbol. The first failure on the way is the result.

Evaluations inside each other are counted down from the recursion limit and the steps of each
from the iteration limit, so that every evaluation ends.

What nothing applies to comes through as the very node it is. So an evaluation and a step answer
with an option, where `none` says that the very expression they were given comes back.
-/

namespace Reduct

/-- The result of one step. -/
structure Reduced where
  expr : Expr
  /-- Did a rule or a function apply? A rule may give back what it was given, which is still a
  change. -/
  isFired : Bool

namespace Reduced

/-- The result of a step in which no rule and no function applied. -/
def plain (e : Expr) : Reduced := ⟨e, false⟩

/-- What a rule or a function made. -/
def fired (e : Expr) : Reduced := ⟨e, true⟩

/-- Is the evaluation of `e`, of which this is a step, to go on? -/
def isActive (r : Reduced) (e : Expr) : Bool :=
  (r.isFired || !r.expr.same e) && !r.expr.isAbort && !r.expr.isHeld

end Reduced

/-! ## Arranging arguments -/

namespace Expr

mutual

/-- The arguments in place of a call of `name`, and those of calls among them in turn. -/
def spliced (name : String) : Expr → List Expr
  | .apply head args held =>
    if head.symbol? = some name then splicedAll name args else [.apply head args held]
  | e => [e]

/-- The arguments, with those of calls of `name` in the place of the calls. -/
def splicedAll (name : String) : List Expr → List Expr
  | [] => []
  | e :: es => spliced name e ++ splicedAll name es

end

/-- The `index`-th slice of arguments: of each list its item there, and all else as it is. -/
def slice (args : List Expr) (index : Nat) : List Expr :=
  args.map fun a => if a.isCall "List" then a.args[index]?.getD a else a

/-- The application over lists: the list of its applications to the slices. All lists must have
one length. -/
def thread (head : Expr) (args : List Expr) : Expr :=
  match (args.filter fun a => a.isCall "List").map fun a => a.args.length with
  | [] => app head args
  | length :: lengths =>
    if lengths.all (· == length) then
      list ((List.range length).map fun index => app head (slice args index))
    else (app head args).abort Failure.unequalLists.message

/-- The parameters of a function: one symbol, or the arguments of an application. -/
def parameters? : Expr → Option (List Expr)
  | .symbol name held => some [.symbol name held]
  | .apply _ params _ => some params
  | _ => none

/-- The application `call` of a function, which has the given parts, to arguments. -/
def applyFunction (call : Expr) (parts args : List Expr) (s : Sharing := .never) : Reduced :=
  match parts with
  | [params, body] =>
    match parameters? params with
    | none => .plain (call.abort Failure.functionParameters.message)
    | some params =>
      let patterns := params.map fun param => Expr.call "Pattern" [param]
      match Pattern.extendAll? patterns args [] with
      | some captures => .fired (captures.instantiate body s)
      | none => .plain (call.abort Failure.functionArguments.message)
  | _ => .plain (call.abort Failure.functionArity.message)

end Expr

/-- Applies a function. It is a rewriting if the function takes the arguments. -/
def EvalM.applyFunction (call : Expr) (parts args : List Expr) : EvalM Reduced :=
  rewriting (call.applyFunction parts args ·) Reduced.isFired

/-- An evaluator: limits, and the operations it knows. -/
structure Evaluator where
  limits : Limits := {}
  operations : Operations := {}

namespace Evaluator

/-- What an expression is evaluated to. -/
def valueOf (evaluate? : Expr → EvalM (Option Expr)) (e : Expr) : EvalM Expr :=
  return (← evaluate? e).getD e

/-! ## One step -/

/-- Evaluates the arguments that the attributes let it, from left to right; `index` is the place
of the first. The first failure ends it. -/
def evaluateArgs? (evaluate? : Expr → EvalM (Option Expr)) (attributes : Attributes) :
    (index : Nat) → List Expr → EvalM (Except Expr (Option (List Expr)))
  | _, [] => return .ok none
  | index, e :: es => do
    if attributes.evaluates index then
      let value? ← evaluate? e
      if (value?.getD e).isAbort then return .error (value?.getD e)
      match ← evaluateArgs? evaluate? attributes (index + 1) es with
      | .error failed => return .error failed
      | .ok values? => return .ok (Expr.rebuiltArgs? e es value? values?)
    else
      match ← evaluateArgs? evaluate? attributes (index + 1) es with
      | .error failed => return .error failed
      | .ok values? => return .ok (Expr.rebuiltArgs? e es none values?)

/-- Arranges evaluated arguments as the attributes of the head symbol say. -/
def arrange (attributes : Attributes) (name : Option String) (args : List Expr) : List Expr :=
  let args :=
    match name with
    | some name => if attributes.flat then Expr.splicedAll name args else args
    | none => args
  if attributes.orderless then Expr.sortByText args else args

/-- Do all arguments keep their places when they are arranged? -/
def isArranged (attributes : Attributes) (name : Option String) (args : List Expr) : Bool :=
  (!attributes.flat || name.all fun name => !args.any (Expr.isCall name)) &&
    (!attributes.orderless || Expr.ascend (args.map Expr.render))

/-- Arranges the arguments `args` after an evaluation. -/
def arrange? (attributes : Attributes) (name : Option String) (args : List Expr)
    (values? : Option (List Expr)) : Option (List Expr) :=
  let values := values?.getD args
  if isArranged attributes name values then values? else some (arrange attributes name values)

/-- Runs the operation of a symbol on the arguments of `call`. -/
def dispatch (ev : Evaluator) (evaluate : Expr → EvalM Expr) (call : Expr) (name : String) :
    EvalM (Option Expr) := do
  match ev.operations.get? name with
  | none => return none
  | some operation =>
    if call.args.length < operation.minArgs then
      return some (call.abort Failure.insufficientArguments.message)
    match ← operation.run evaluate call.args with
    | .ok value => return some value
    | .error failure => return some (call.abort failure.message)

/-- Takes a step with an application whose head and arguments are evaluated and arranged. -/
def reduceCall? (ev : Evaluator) (evaluate : Expr → EvalM Expr) (attributes : Attributes)
    (head : Expr) (args : List Expr) : EvalM (Option Reduced) := do
  let call := Expr.app head args
  if attributes.listable && args.any (Expr.isCall "List") then
    return some (.plain (Expr.thread head args))
  match ← EvalM.resolve? call with
  | some value => return some (.fired value)
  | none =>
    if head.isCall "Func" then return some (← EvalM.applyFunction call head.args args)
    match head.symbol? with
    | none => return none
    | some name => return (← ev.dispatch evaluate call name).map .plain

/-- The evaluation attributes that an evaluated head gives to the arguments. -/
def attributesOf (s : Scopes) (head : Expr) : Attributes :=
  match head.symbol? with
  | some name => .ofSymbol s name
  | none => {}

/-- Takes a step with an application whose head has been evaluated, to `head?`. -/
def reduceApplied? (ev : Evaluator) (evaluate? : Expr → EvalM (Option Expr)) (head : Expr)
    (args : List Expr) (head? : Option Expr) : EvalM (Option Reduced) := do
  let value := head?.getD head
  if value.isAbort then return some (.plain value)
  let attributes := attributesOf (← EvalM.scopes) value
  match ← evaluateArgs? evaluate? attributes 0 args with
  | .error failed => return some (.plain failed)
  | .ok values? =>
    let args? := arrange? attributes value.symbol? args values?
    match ← ev.reduceCall? (valueOf evaluate?) attributes value (args?.getD args) with
    | some r => return some r
    | none => return (Expr.rebuilt? head args head? args?).map .plain

/-- Takes a step with an expression that has no hold mark. -/
def reduce? (ev : Evaluator) (evaluate? : Expr → EvalM (Option Expr)) :
    Expr → EvalM (Option Reduced)
  | .apply head args _ => do ev.reduceApplied? evaluate? head args (← evaluate? head)
  | .symbol name held => return (← EvalM.resolve? (.symbol name held)).map .fired
  | _ => return none

/-! ## Settling -/

/-- Takes a step from `e`, and records it if the evaluation is to go on. `input` is what the
evaluation started from; only the steps of applications are recorded. -/
def advance? (reduce? : Expr → EvalM (Option Reduced)) (input e : Expr) :
    EvalM (Option Reduced) := do
  let r? ← reduce? e
  let r := r?.getD (.plain e)
  if r.isActive e && input.application?.isSome then EvalM.recordStep e r.expr
  return r?

/-- Takes steps from `e` until it settles, with so many more steps allowed. -/
def settle? (reduce? : Expr → EvalM (Option Reduced)) (input : Expr) :
    (remaining : Nat) → Expr → EvalM (Option Expr)
  | 0, e => do
    match ← advance? reduce? input e with
    | none => return none
    | some r =>
      if r.isActive e then return some (← EvalM.cutShort r.expr .iterationLimit)
      return some r.expr
  | remaining + 1, e => do
    match ← advance? reduce? input e with
    | none => return none
    | some r =>
      if r.isActive e then return some ((← settle? reduce? input remaining r.expr).getD r.expr)
      return some r.expr

/-- Evaluates an expression with so many levels left. What is held stays as it is. -/
def evaluateWithin? (ev : Evaluator) : (levels : Nat) → Expr → EvalM (Option Expr)
  | 0, e =>
    if e.isHeld then return none
    else return some (← EvalM.cutShort e .recursionLimit)
  | levels + 1, e =>
    if e.isHeld then return none
    else EvalM.deeper (settle? (ev.reduce? (ev.evaluateWithin? levels)) e ev.limits.iterations e)

/-- Evaluates an expression, with the levels that the present depth leaves. -/
def evaluate? (ev : Evaluator) (e : Expr) : EvalM (Option Expr) := do
  ev.evaluateWithin? (ev.limits.recursion - (← get).depth) e

/-- Evaluates an expression. -/
def evaluate (ev : Evaluator) (e : Expr) : EvalM Expr := valueOf ev.evaluate? e

end Evaluator

end Reduct
