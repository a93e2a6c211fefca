import Reduct.Expr.Render
import Reduct.Rule
import Reduct.SyntaxError

/-!
# Events

What a session reports while it works. Events are kept as data and put into words only when
they are shown; each has a level, and a session keeps those up to the level it listens to.
-/

namespace Reduct

/-- How much attention an event asks for, from the most on. -/
inductive Level where
  | error
  | warn
  | info
  | debug
  | trace
deriving Repr, DecidableEq

namespace Level

/-- The place of a level in the order of attention. -/
def rank : Level → Nat
  | .error => 1
  | .warn => 2
  | .info => 3
  | .debug => 4
  | .trace => 5

/-- The name of a level. -/
def label : Level → String
  | .error => "ERROR"
  | .warn => "WARN"
  | .info => "INFO"
  | .debug => "DEBUG"
  | .trace => "TRACE"

end Level

/-- Why the declaration of an operator is passed over. -/
inductive DeclarationFault where
  | malformed
  | refused (error : SyntaxError)
deriving Repr, DecidableEq

/-- The fault in words. -/
def DeclarationFault.message : DeclarationFault → String
  | .malformed => "malformed declaration"
  | .refused error => error.message

/-- What a session reports. -/
inductive Event where
  /-- The attribute of a symbol declares no operator. -/
  | operatorSkipped (declaration : Expr) (symbol : String) (fault : DeclarationFault)
  /-- A group of operations that there is not. -/
  | unknownGroup (name : String)
  | echoed (e : Expr)
  | printed (e : Expr)
  | ruleDefined (rule : Rule)
  /-- A scope was opened at a level, with so many local symbols declared. -/
  | scopeOpened (level locals : Nat)
  | scopeClosed (level : Nat)
  /-- A source text was read. -/
  | input (e : Expr)
  /-- An evaluation at a depth took a step. -/
  | step (depth : Nat) (before after : Expr)

namespace Event

/-- The attention an event asks for. -/
def level : Event → Level
  | .operatorSkipped .. | .unknownGroup _ => .warn
  | .echoed _ | .printed _ => .info
  | .ruleDefined _ | .scopeOpened .. | .scopeClosed _ | .input _ => .debug
  | .step .. => .trace

/-- The event in words. -/
def message : Event → String
  | .operatorSkipped declaration symbol fault =>
      "skipping operator " ++ declaration.render ++ " on " ++ symbol ++ ": " ++ fault.message
  | .unknownGroup name => "unknown operation group " ++ name
  | .echoed e => "Echo: " ++ e.render
  | .printed e => e.render
  | .ruleDefined rule => "define " ++ rule.pattern.render ++ " -> " ++ rule.value.render
  | .scopeOpened level locals =>
      "scope " ++ toString level ++ " opened with " ++ toString locals ++ " locals"
  | .scopeClosed level => "scope " ++ toString level ++ " closed"
  | .input e => "input " ++ e.render
  | .step depth before after =>
      "|" ++ String.ofList (List.replicate depth ' ') ++ " " ++ before.render ++ " --> " ++
        after.render

end Event

end Reduct
