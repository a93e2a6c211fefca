/-!
# Expressions

An expression is a number, a string, a symbol, or an application of a head to arguments, where
the head is any expression. Symbols and applications carry a *hold mark*: evaluation leaves a
marked node alone. Numbers and strings evaluate to themselves and need no mark.

The names that evaluation gives a meaning to are ordinary symbols: `List`, `True`, `False`,
`Null`, and `Abort`, whose applications to an expression and a message stand for a failed
evaluation.
-/

namespace Reduct

/-- An expression. -/
inductive Expr where
  | number (value : Float)
  | string (text : String)
  | symbol (name : String) (held : Bool)
  | apply (head : Expr) (args : List Expr) (held : Bool)

namespace Expr

instance : Inhabited Expr := ⟨.string ""⟩

/-! ## Building expressions -/

/-- A symbol without a hold mark. -/
@[match_pattern] abbrev sym (name : String) : Expr := .symbol name false

/-- An application without a hold mark. -/
@[match_pattern] abbrev app (head : Expr) (args : List Expr) : Expr := .apply head args false

/-- The application of a symbol. -/
abbrev call (name : String) (args : List Expr) : Expr := app (sym name) args

/-- The value of what is done for its effect. -/
abbrev null : Expr := sym "Null"

/-- The symbol for a truth value. -/
def ofBool (b : Bool) : Expr := sym (if b then "True" else "False")

/-- A list. -/
abbrev list (items : List Expr) : Expr := call "List" items

/-! ## Taking expressions apart -/

/-- The mark of the top node. -/
def isHeld : Expr → Bool
  | .symbol _ held => held
  | .apply _ _ held => held
  | _ => false

def number? : Expr → Option Float
  | .number value => some value
  | _ => none

def string? : Expr → Option String
  | .string text => some text
  | _ => none

def symbol? : Expr → Option String
  | .symbol name _ => some name
  | _ => none

/-- Head and arguments of an application. -/
def application? : Expr → Option (Expr × List Expr)
  | .apply head args _ => some (head, args)
  | _ => none

/-- The truth value a symbol stands for. -/
def bool? (e : Expr) : Option Bool :=
  match e.symbol? with
  | some "True" => some true
  | some "False" => some false
  | _ => none

/-- The arguments of an application; an atom has none. -/
def args : Expr → List Expr
  | .apply _ args _ => args
  | _ => []

/-- The symbol whose rules apply to an expression: the symbol itself, or the head of an
application of a symbol. -/
def owner? : Expr → Option String
  | .symbol name _ => some name
  | .apply head _ _ => head.symbol?
  | _ => none

/-- Is the expression an application of the symbol `name`? -/
def isCall (name : String) : Expr → Bool
  | .apply head _ _ => head.symbol? == some name
  | _ => false

/-! ## Failed evaluations -/

/-- The message of a failed evaluation: `Abort` with an expression and a string. -/
def abortMessage? : Expr → Option String
  | .apply (.symbol "Abort" _) [_, .string message] _ => some message
  | _ => none

/-- Does the expression stand for a failed evaluation? -/
def isAbort (e : Expr) : Bool := e.abortMessage?.isSome

/-- The failed evaluation of `e`. One that has failed already keeps its first message. -/
def abort (e : Expr) (message : String) : Expr :=
  if e.isAbort then e else call "Abort" [e, .string message]

theorem abort_of_isAbort {e : Expr} (h : e.isAbort) (message : String) : e.abort message = e :=
  if_pos h

theorem isAbort_abort (e : Expr) (message : String) : (e.abort message).isAbort := by
  rw [abort]
  split
  · assumption
  · rfl

/-! ## Hold marks -/

mutual

/-- The expression with every symbol and application marked. -/
def holdForm : Expr → Expr
  | .number value => .number value
  | .string text => .string text
  | .symbol name _ => .symbol name true
  | .apply head args _ => .apply head.holdForm (holdForms args) true

/-- `holdForm` of each expression. -/
def holdForms : List Expr → List Expr
  | [] => []
  | e :: es => e.holdForm :: holdForms es

end

mutual

/-- The expression with every mark cleared. -/
def releaseHold : Expr → Expr
  | .number value => .number value
  | .string text => .string text
  | .symbol name _ => .symbol name false
  | .apply head args _ => .apply head.releaseHold (releaseHolds args) false

/-- `releaseHold` of each expression. -/
def releaseHolds : List Expr → List Expr
  | [] => []
  | e :: es => e.releaseHold :: releaseHolds es

end

theorem holdForms_eq_map (es : List Expr) : holdForms es = es.map holdForm := by
  induction es with
  | nil => rfl
  | cons e es ih => simp [holdForms, ih]

theorem releaseHolds_eq_map (es : List Expr) : releaseHolds es = es.map releaseHold := by
  induction es with
  | nil => rfl
  | cons e es ih => simp [releaseHolds, ih]

end Expr

end Reduct
