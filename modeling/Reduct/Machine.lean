import Reduct.Event
import Reduct.Failure
import Reduct.Scope

/-!
# The state of evaluation

Everything an evaluation can change: the open scopes, how deep evaluations are nested, the
names drawn, the record of steps and the events reported. With it comes what the evaluation is
told of shared nodes, one rewriting after the other. A computation on this state is an `EvalM`;
the elementary ones are here.
-/

namespace Reduct

/-- A step of an evaluation at some depth. -/
structure Step where
  depth : Nat
  before : Expr
  after : Expr

/-- Local symbols that were given fresh names. -/
structure Renaming where
  /-- What was given: the list of the local symbols, and the body. -/
  args : List Expr
  /-- The definitions at that moment. -/
  scopes : Scopes
  /-- The number drawn for the names. -/
  number : Nat
  /-- What was given back. -/
  value : Expr

/-- The state of evaluation. -/
structure Machine where
  scopes : Scopes := {}
  /-- How many evaluations are under way inside each other. -/
  depth : Nat := 0
  /-- The most there have been inside each other so far. -/
  deepest : Nat := 0
  /-- The last number drawn for a generated name. -/
  lastFresh : Nat := 0
  /-- Are steps recorded? -/
  isTracing : Bool := false
  /-- The steps recorded, the last first. -/
  steps : List Step := []
  /-- The level that events are kept up to; none are without one. -/
  attention : Option Level := none
  /-- The events kept, the last first. -/
  events : List Event := []
  /-- How many evaluations a limit has cut short. -/
  cutShort : Nat := 0
  /-- The renamings of local symbols so far, the last first. -/
  renamings : List Renaming := []
  /-- How many times the record of steps was turned off. -/
  silenced : Nat := 0
  /-- What each rewriting is told of the nodes it puts in. -/
  sharing : Nat → Sharing := fun _ => .never
  /-- How many rewritings there have been. -/
  rewritings : Nat := 0

namespace Machine

/-- The state one level deeper. -/
def descend (m : Machine) : Machine :=
  { m with depth := m.depth + 1, deepest := max m.deepest (m.depth + 1) }

/-- The state one level less deep. -/
def ascend (m : Machine) : Machine := { m with depth := m.depth - 1 }

end Machine

/-- A computation that works on the state of evaluation. -/
abbrev EvalM := StateM Machine

namespace EvalM

/-- Keeps an event, if the session listens to its level. -/
def report (event : Event) : EvalM Unit := modify fun m =>
  match m.attention with
  | none => m
  | some level =>
    if event.level.rank ≤ level.rank then { m with events := event :: m.events } else m

/-- Hands over the events kept, in order, and forgets them. -/
def takeEvents : EvalM (List Event) := do
  let m ← get
  set { m with events := [] }
  return m.events.reverse

/-- Hands over the steps recorded, in order, and forgets them. -/
def takeSteps : EvalM (List Step) := do
  let m ← get
  set { m with steps := [] }
  return m.steps.reverse

/-- Turns the record of steps on or off. -/
def setTracing (on : Bool) : EvalM Unit := modify fun m =>
  { m with isTracing := on, silenced := if on then m.silenced else m.silenced + 1 }

/-- Draws a number that was not drawn before. -/
def drawFresh : EvalM Nat := do
  let m ← get
  set { m with lastFresh := m.lastFresh + 1 }
  return m.lastFresh + 1

/-- Notes that local symbols were given fresh names. -/
def noteRenaming (args : List Expr) (number : Nat) (value : Expr) : EvalM Unit := modify fun m =>
  { m with renamings := ⟨args, m.scopes, number, value⟩ :: m.renamings }

/-! ## Rewriting -/

/-- Rewrites something, told of the nodes that are put in. What comes of it says whether it was a
rewriting at all. -/
def rewriting {α : Type} (rewrite : Sharing → α) (counts : α → Bool) : EvalM α := do
  let m ← get
  let result := rewrite (m.sharing m.rewritings)
  if counts result then set { m with rewritings := m.rewritings + 1 }
  return result

/-! ## Scopes -/

/-- The scopes that are open. -/
def scopes : EvalM Scopes := return (← get).scopes

/-- What the rules of the owning symbol make of an expression. It is a rewriting if they make
something of it. -/
def resolve? (e : Expr) : EvalM (Option Expr) := do
  let s ← scopes
  rewriting (s.resolve? e ·) Option.isSome

/-- Changes the scopes. -/
def modifyScopes (change : Scopes → Scopes) : EvalM Unit :=
  modify fun m => { m with scopes := change m.scopes }

/-- Opens a scope that declares local symbols. -/
def openScope (locals : List String) : EvalM Unit := do
  let s ← scopes
  modifyScopes fun s => s.push locals
  report (.scopeOpened s.depth locals.length)

/-- Closes the innermost scope, and tells whether there was one inside the root. -/
def closeScope : EvalM Bool := do
  match (← scopes).pop? with
  | none => return false
  | some s =>
    modifyScopes fun _ => s
    report (.scopeClosed s.depth)
    return true

/-- Runs a computation in a scope of its own. -/
def inScope {α : Type} (locals : List String) (body : EvalM α) : EvalM α := do
  openScope locals
  let result ← body
  let _ ← closeScope
  return result

/-- Declares a rule. -/
def setRule (rule : Rule) : EvalM (Except Failure Unit) := do
  match (← scopes).setRule? rule with
  | none => return .error .unsupportedTarget
  | some s =>
    report (.ruleDefined rule)
    modifyScopes fun _ => s
    return .ok ()

/-- Withdraws the rule for a pattern, and tells whether there was one. -/
def clearRule (pattern : Expr) : EvalM (Except Failure Bool) := do
  match (← scopes).clearRule? pattern with
  | none => return .error .unsupportedTarget
  | some (had, s) =>
    modifyScopes fun _ => s
    return .ok had

/-! ## Depth and limits -/

/-- Records a step at the present depth. -/
def recordStep (before after : Expr) : EvalM Unit := do
  let m ← get
  report (.step m.depth before after)
  if m.isTracing then
    modify fun m => { m with steps := ⟨m.depth, before, after⟩ :: m.steps }

/-- Runs a computation one level deeper. -/
def deeper {α : Type} (body : EvalM α) : EvalM α := do
  modify Machine.descend
  let result ← body
  modify Machine.ascend
  return result

/-- The failed evaluation of `e` at a limit. -/
def cutShort (e : Expr) (limit : Failure) : EvalM Expr := do
  modify fun m => { m with cutShort := m.cutShort + 1 }
  return e.abort limit.message

end EvalM

end Reduct
