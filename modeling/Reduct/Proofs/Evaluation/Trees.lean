import Reduct.Proofs.Expr.Names
import Reduct.Proofs.Expr.Nesting
import Reduct.Proofs.Expr.Ordering

/-!
# Evaluation of trees

An evaluation tells its caller whether the very expression came through, and so does each of the
computations it is made of. The expressions that come out do not depend on what is told: a
computation that hands over every value, changed or not, stands for all that come to its values.
`Evaluator.evaluateArgs`, `Evaluator.reduce`, `Evaluator.settle` and `Evaluator.evaluateWithin` are
the computations with values for results. Here are the equations that say what they run through,
with nothing in them about what came through unchanged.
-/

namespace Reduct

/-! ### Arrangements that change nothing -/

namespace Evaluator

variable {attributes : Attributes} {name : Option String} {args : List Expr}

theorem arrange_of_isArranged (h : isArranged attributes name args) :
    arrange attributes name args = args := by
  obtain ⟨hflat, horderless⟩ := Bool.and_eq_true_iff.mp h
  have hascend : attributes.orderless → Expr.sortByText args = args := fun ho =>
    Expr.sortByText_of_ascending (Expr.ascend_map_render_iff.mp (by simpa [ho] using horderless))
  cases name with
  | none => simpa [arrange] using hascend
  | some name =>
      have hspliced : attributes.flat → Expr.splicedAll name args = args := fun hf =>
        Expr.splicedAll_of_not_isCall (by simpa [hf] using hflat)
      dsimp only [arrange]
      rw [ite_eq_right_iff.mpr hspliced, ite_eq_right_iff.mpr hascend]

/-- Arguments in place are passed on as they are, and others arranged. -/
theorem getD_arrange? (attributes : Attributes) (name : Option String) (args : List Expr)
    (values? : Option (List Expr)) :
    (arrange? attributes name args values?).getD args =
      arrange attributes name (values?.getD args) := by
  dsimp only [arrange?]
  split
  next h => exact (arrange_of_isArranged h).symm
  next => rfl

end Evaluator

namespace Evaluator

variable {α : Type} {ev : Evaluator} {evaluate : Expr → EvalM Expr}
  {evaluate? : Expr → EvalM (Option Expr)}

/-! ### Computations that hand over every value -/

/-- Hands over every value, as if all had changed. -/
def handOver (f : Expr → EvalM α) (e : Expr) : EvalM (Option α) := return some (← f e)

theorem valueOf_handOver (evaluate : Expr → EvalM Expr) : valueOf (handOver evaluate) = evaluate :=
  rfl

/-- The values of arguments, changed or not. -/
def argValues (evaluate? : Expr → EvalM (Option Expr)) (attributes : Attributes) (index : Nat)
    (es : List Expr) : EvalM (Except Expr (List Expr)) :=
  return (← evaluateArgs? evaluate? attributes index es).map fun values? => values?.getD es

/-- Evaluates the arguments that the attributes let it, from left to right. -/
def evaluateArgs (evaluate : Expr → EvalM Expr) (attributes : Attributes) (index : Nat)
    (es : List Expr) : EvalM (Except Expr (List Expr)) :=
  argValues (handOver evaluate) attributes index es

/-- Takes a step with an application whose head and arguments are evaluated and arranged. -/
def reduceCall (ev : Evaluator) (evaluate : Expr → EvalM Expr) (attributes : Attributes)
    (head : Expr) (args : List Expr) : EvalM Reduced :=
  return (← ev.reduceCall? evaluate attributes head args).getD (.plain (.app head args))

/-- Takes a step with an application whose head is evaluated. -/
def reduceApplied (ev : Evaluator) (evaluate : Expr → EvalM Expr) (args : List Expr)
    (head : Expr) : EvalM Reduced := do
  if head.isAbort then return .plain head
  let attributes := attributesOf (← EvalM.scopes) head
  match ← evaluateArgs evaluate attributes 0 args with
  | .error failed => return .plain failed
  | .ok args => ev.reduceCall evaluate attributes head (arrange attributes head.symbol? args)

/-- The step with an expression, changed or not. -/
def stepOf (reduce? : Expr → EvalM (Option Reduced)) (e : Expr) : EvalM Reduced :=
  return (← reduce? e).getD (.plain e)

/-- Takes a step with an expression. -/
def reduce (ev : Evaluator) (evaluate : Expr → EvalM Expr) (e : Expr) : EvalM Reduced :=
  stepOf (ev.reduce? (handOver evaluate)) e

/-- Takes a step from `e`, and records it if the evaluation is to go on. -/
def advance (reduce : Expr → EvalM Reduced) (input e : Expr) : EvalM Reduced :=
  stepOf (advance? (handOver reduce) input) e

/-- Takes steps from `e` until it settles, with so many more steps allowed. -/
def settle (reduce : Expr → EvalM Reduced) (input : Expr) (remaining : Nat) (e : Expr) :
    EvalM Expr :=
  valueOf (settle? (handOver reduce) input remaining) e

/-- Evaluates an expression with so many levels left. -/
def evaluateWithin (ev : Evaluator) (levels : Nat) (e : Expr) : EvalM Expr :=
  valueOf (ev.evaluateWithin? levels) e

/-! ### Arguments -/

theorem argValues_cons (attributes : Attributes) (index : Nat) (e : Expr) (es : List Expr) :
    argValues evaluate? attributes index (e :: es) =
      if attributes.evaluates index then do
        let value ← valueOf evaluate? e
        if value.isAbort then return .error value
        match ← argValues evaluate? attributes (index + 1) es with
        | .error failed => return .error failed
        | .ok values => return .ok (value :: values)
      else do
        match ← argValues evaluate? attributes (index + 1) es with
        | .error failed => return .error failed
        | .ok values => return .ok (e :: values) := by
  rw [argValues, evaluateArgs?]
  split
  · rw [bind_assoc, valueOf, bind_assoc]
    refine bind_congr fun value? => ?_
    rw [pure_bind, argValues]
    split
    · rfl
    · rw [bind_assoc, bind_assoc]
      refine bind_congr fun values? => ?_
      cases values? with
      | error failed => rfl
      | ok values? => simp [Except.map, Expr.getD_rebuiltArgs?]
  · rw [bind_assoc, argValues, bind_assoc]
    refine bind_congr fun values? => ?_
    cases values? with
    | error failed => rfl
    | ok values? => simp [Except.map, Expr.getD_rebuiltArgs?]

/-- What comes through unchanged makes no difference to the values. -/
theorem argValues_eq (evaluate? : Expr → EvalM (Option Expr)) (attributes : Attributes)
    (index : Nat) (es : List Expr) :
    argValues evaluate? attributes index es =
      evaluateArgs (valueOf evaluate?) attributes index es := by
  induction es generalizing index with
  | nil => rfl
  | cons e es ih => rw [evaluateArgs, argValues_cons, argValues_cons, valueOf_handOver, ih]; rfl

theorem evaluateArgs_nil (attributes : Attributes) (index : Nat) :
    evaluateArgs evaluate attributes index [] = pure (.ok []) := rfl

theorem evaluateArgs_cons (attributes : Attributes) (index : Nat) (e : Expr) (es : List Expr) :
    evaluateArgs evaluate attributes index (e :: es) =
      if attributes.evaluates index then do
        let value ← evaluate e
        if value.isAbort then return .error value
        match ← evaluateArgs evaluate attributes (index + 1) es with
        | .error failed => return .error failed
        | .ok values => return .ok (value :: values)
      else do
        match ← evaluateArgs evaluate attributes (index + 1) es with
        | .error failed => return .error failed
        | .ok values => return .ok (e :: values) :=
  argValues_cons attributes index e es

/-! ### A step -/

theorem reduceCall_eq (attributes : Attributes) (head : Expr) (args : List Expr) :
    ev.reduceCall evaluate attributes head args =
      if attributes.listable && args.any (Expr.isCall "List") then
        pure (.plain (Expr.thread head args))
      else do
        match ← EvalM.resolve? (.app head args) with
        | some value => return .fired value
        | none =>
          if head.isCall "Func" then EvalM.applyFunction (.app head args) head.args args
          else
            match head.symbol? with
            | none => return .plain (.app head args)
            | some name =>
              return .plain ((← ev.dispatch evaluate (.app head args) name).getD
                (.app head args)) := by
  rw [reduceCall, reduceCall?]
  split
  · rfl
  · rw [bind_assoc]
    refine bind_congr fun value? => ?_
    cases value? with
    | some value => rfl
    | none =>
        dsimp only
        split
        · rw [bind_assoc]
          rfl
        · cases head.symbol? with
          | none => rfl
          | some name =>
              dsimp only
              rw [bind_assoc]
              refine bind_congr fun value? => ?_
              cases value? <;> rfl

/-- What a step makes of an application after its head was evaluated, if the application is
unmarked or its head was handed over. -/
theorem reduceApplied?_eq {head : Expr} {args : List Expr} {held : Bool} {head? : Option Expr}
    (h : head?.isSome ∨ held = false) :
    (ev.reduceApplied? evaluate? head args head? >>= fun r? =>
      pure (r?.getD (.plain (.apply head args held)))) =
      ev.reduceApplied (valueOf evaluate?) args (head?.getD head) := by
  rw [reduceApplied?, reduceApplied]
  dsimp only
  split
  · rfl
  · rw [bind_assoc]
    refine bind_congr fun s => ?_
    rw [← argValues_eq, argValues, bind_assoc, bind_assoc]
    refine bind_congr fun values? => ?_
    cases values? with
    | error failed => rfl
    | ok values? =>
        dsimp only [Except.map]
        rw [pure_bind, bind_assoc]
        dsimp only
        rw [← getD_arrange?, reduceCall]
        refine bind_congr fun r? => ?_
        cases r? with
        | some r => rfl
        | none =>
            dsimp only
            have hunmarked : (held && head?.isNone) = false := by
              obtain hsome | rfl := h
              · simp [Option.isNone_eq_false_iff.mpr hsome]
              · rfl
            rw [pure_bind, Option.getD_map, Expr.getD_rebuilt?, hunmarked]
            rfl

theorem stepOf_reduce?_app (head : Expr) (args : List Expr) :
    stepOf (ev.reduce? evaluate?) (.app head args) =
      valueOf evaluate? head >>= ev.reduceApplied (valueOf evaluate?) args := by
  rw [stepOf, reduce?, bind_assoc, valueOf, bind_assoc]
  refine bind_congr fun head? => ?_
  rw [pure_bind, ← reduceApplied?_eq (.inr rfl)]

theorem reduce_apply (evaluate : Expr → EvalM Expr) (head : Expr) (args : List Expr)
    (held : Bool) :
    ev.reduce evaluate (.apply head args held) =
      evaluate head >>= ev.reduceApplied evaluate args := by
  rw [reduce, stepOf, reduce?, handOver, bind_assoc, bind_assoc]
  refine bind_congr fun value => ?_
  rw [pure_bind]
  exact reduceApplied?_eq (.inl rfl)

theorem reduce_symbol (evaluate : Expr → EvalM Expr) (name : String) (held : Bool) :
    ev.reduce evaluate (.symbol name held) = do
      match ← EvalM.resolve? (.symbol name held) with
      | some value => return .fired value
      | none => return .plain (.symbol name held) := by
  rw [reduce, stepOf, reduce?, bind_assoc]
  refine bind_congr fun value? => ?_
  cases value? <;> rfl

/-- The steps with unmarked expressions are those with trees. -/
theorem stepOf_reduce? {e : Expr} (h : e.isHeld = false) :
    stepOf (ev.reduce? evaluate?) e = ev.reduce (valueOf evaluate?) e := by
  cases e with
  | number value | string text | symbol name held => rfl
  | apply head args held =>
      obtain rfl : held = false := h
      rw [reduce_apply, stepOf_reduce?_app]

end Evaluator

namespace Reduced

variable {r : Reduced} {e : Expr}

/-- Settling does not go on from what a step leaves as it is. -/
theorem isActive_plain_self (e : Expr) : (plain e).isActive e = false := by
  simp [isActive, plain, Expr.same_refl e]

/-- What settling goes on from is not held. -/
theorem isHeld_of_isActive (h : r.isActive e) : r.expr.isHeld = false := by
  simpa using (Bool.and_eq_true_iff.mp h).2

end Reduced

namespace Evaluator

variable {ev : Evaluator} {reduce : Expr → EvalM Reduced}
  {reduce? : Expr → EvalM (Option Reduced)} {input e : Expr}

/-! ### Settling -/

theorem stepOf_advance? (reduce? : Expr → EvalM (Option Reduced)) (input e : Expr) :
    stepOf (advance? reduce? input) e = do
      let r ← stepOf reduce? e
      if r.isActive e && input.application?.isSome then EvalM.recordStep e r.expr
      return r := by
  rw [stepOf, advance?, bind_assoc, stepOf, bind_assoc]
  refine bind_congr fun r? => ?_
  rw [pure_bind]
  dsimp only
  split <;> rfl

theorem advance_eq (reduce : Expr → EvalM Reduced) (input e : Expr) :
    advance reduce input e = do
      let r ← reduce e
      if r.isActive e && input.application?.isSome then EvalM.recordStep e r.expr
      return r :=
  stepOf_advance? (handOver reduce) input e

theorem valueOf_settle?_zero (reduce? : Expr → EvalM (Option Reduced)) (input e : Expr) :
    valueOf (settle? reduce? input 0) e = do
      let r ← stepOf (advance? reduce? input) e
      if r.isActive e then EvalM.cutShort r.expr .iterationLimit else return r.expr := by
  rw [valueOf, settle?, bind_assoc, stepOf, bind_assoc]
  refine bind_congr fun r? => ?_
  rw [pure_bind]
  cases r? with
  | none => rw [if_neg (by simp [Reduced.isActive_plain_self])]; rfl
  | some r =>
      dsimp only [Option.getD_some]
      split <;> rfl

theorem valueOf_settle?_succ (reduce? : Expr → EvalM (Option Reduced)) (input : Expr)
    (remaining : Nat) (e : Expr) :
    valueOf (settle? reduce? input (remaining + 1)) e = do
      let r ← stepOf (advance? reduce? input) e
      if r.isActive e then valueOf (settle? reduce? input remaining) r.expr
      else return r.expr := by
  rw [valueOf, settle?, bind_assoc, stepOf, bind_assoc]
  refine bind_congr fun r? => ?_
  rw [pure_bind]
  cases r? with
  | none => rw [if_neg (by simp [Reduced.isActive_plain_self])]; rfl
  | some r =>
      dsimp only [Option.getD_some]
      split <;> rfl

theorem settle_zero (reduce : Expr → EvalM Reduced) (input e : Expr) :
    settle reduce input 0 e = do
      let r ← advance reduce input e
      if r.isActive e then EvalM.cutShort r.expr .iterationLimit else return r.expr :=
  valueOf_settle?_zero (handOver reduce) input e

theorem settle_succ (reduce : Expr → EvalM Reduced) (input : Expr) (remaining : Nat) (e : Expr) :
    settle reduce input (remaining + 1) e = do
      let r ← advance reduce input e
      if r.isActive e then settle reduce input remaining r.expr else return r.expr :=
  valueOf_settle?_succ (handOver reduce) input remaining e

/-- Steps that come to the same trees settle in the same tree. -/
theorem valueOf_settle? (hsteps : ∀ e, e.isHeld = false → stepOf reduce? e = reduce e)
    (input : Expr) (remaining : Nat) (h : e.isHeld = false) :
    valueOf (settle? reduce? input remaining) e = settle reduce input remaining e := by
  have hadvance {e : Expr} (h : e.isHeld = false) :
      stepOf (advance? reduce? input) e = advance reduce input e := by
    rw [stepOf_advance?, advance_eq, hsteps e h]
  induction remaining generalizing e with
  | zero => rw [valueOf_settle?_zero, settle_zero, hadvance h]
  | succ remaining ih =>
      rw [valueOf_settle?_succ, settle_succ, hadvance h]
      refine bind_congr fun r => ?_
      split
      next hactive => exact ih (Reduced.isHeld_of_isActive hactive)
      next => rfl

/-! ### A whole evaluation -/

theorem evaluateWithin_zero (ev : Evaluator) (e : Expr) :
    ev.evaluateWithin 0 e =
      if e.isHeld then pure e else EvalM.cutShort e .recursionLimit := by
  rw [evaluateWithin, valueOf, evaluateWithin?]
  split <;> rfl

/-- With a level left, an evaluation settles by steps that evaluate with one level less. -/
theorem evaluateWithin_succ (ev : Evaluator) (levels : Nat) (e : Expr) :
    ev.evaluateWithin (levels + 1) e =
      if e.isHeld then pure e
      else EvalM.deeper
        (settle (ev.reduce (ev.evaluateWithin levels)) e ev.limits.iterations e) := by
  rw [evaluateWithin, valueOf, evaluateWithin?]
  split
  next => rfl
  next h =>
    have hsteps : ∀ e, e.isHeld = false →
        stepOf (ev.reduce? (ev.evaluateWithin? levels)) e =
          ev.reduce (ev.evaluateWithin levels) e := fun _ he => stepOf_reduce? he
    rw [← valueOf_settle? hsteps e ev.limits.iterations (Bool.eq_false_iff.mpr h)]
    rfl

end Evaluator

end Reduct
