import Reduct.Evaluator
import Reduct.Library
import Reduct.LiveOperators
import Reduct.Parse

/-!
# Sessions

A session reads one source text after the other, each with the operators declared so far, and
evaluates it. What it learns on the way (rules, attributes, names drawn) stays for the next.
A failed evaluation is an ordinary value; only a text that cannot be read is an error.
-/

namespace Reduct

/-- Parses a source text and evaluates what was read. The expression is reported first if
`isEchoed`. -/
def EvalM.evaluateText (evaluate : Expr → EvalM Expr) (source : String) (isEchoed : Bool) :
    EvalM (Except SyntaxError Expr) := do
  match Reduct.parse (← EvalM.operators) source with
  | .error error => return .error error
  | .ok e =>
    if isEchoed then EvalM.report (.input e)
    return .ok (← evaluate e)

/-- An evaluator and the state it works on. -/
structure Session where
  evaluator : Evaluator
  machine : Machine

namespace Session

/-- A session with the operations of some groups. It keeps events up to a level. -/
def start (config : Config) (groups : List Group) (attention : Option Level)
    (sharing : Nat → Sharing := fun _ => .never) : Session where
  evaluator := { limits := config.limits, operations := .ofGroups groups }
  machine := { scopes := .initial, isTracing := config.trace, attention, sharing }

/-- Runs a computation on the state of a session. -/
def run {α : Type} (s : Session) (body : EvalM α) : α × Session :=
  let (result, machine) := body.run s.machine
  (result, { s with machine })

/-- A session with the operations of the groups named; names of no group are reported. -/
def startNamed (config : Config) (names : List String) (attention : Option Level)
    (sharing : Nat → Sharing := fun _ => .never) : Session :=
  let unknown := names.filter fun name => (Group.ofName? name).isNone
  ((start config (names.filterMap Group.ofName?) attention sharing).run
    (unknown.forM fun name => EvalM.report (.unknownGroup name))).2

/-- The settings as they are now. -/
def config (s : Session) : Config := ⟨s.evaluator.limits, s.machine.isTracing⟩

/-- The operators that can be used now. -/
def operators (s : Session) : OperatorTable × Session := s.run EvalM.operators

/-- Parses a source text with the operators that can be used now. -/
def parse (s : Session) (source : String) : Except SyntaxError Expr × Session :=
  s.run do return Reduct.parse (← EvalM.operators) source

/-- Evaluates an expression. -/
def evaluate (s : Session) (e : Expr) : Expr × Session := s.run (s.evaluator.evaluate e)

/-- Parses and evaluates a source text. The expression read is reported if `isEchoed`. -/
def evaluateText (s : Session) (source : String) (isEchoed : Bool := true) :
    Except SyntaxError Expr × Session :=
  s.run (EvalM.evaluateText s.evaluator.evaluate source isEchoed)

end Session

end Reduct
