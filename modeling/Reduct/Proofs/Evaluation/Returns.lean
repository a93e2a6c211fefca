import Reduct.Proofs.Evaluation.Standing

/-!
# Evaluations that only give a value

`EvalM.Returns` says of a computation which value it gives and that it changes nothing that
evaluation looks at: neither definitions nor depth nor the names drawn, and nothing is rewritten.
Unlike `EvalM.ComesTo` it covers what the limits cut short, so the levels and steps that are left
show in it.

Such computations are put together as they run: steps from the evaluation of head and arguments,
settling from its steps, an evaluation from its settling one level deeper.
-/

namespace Reduct

open Machine (Agree)

variable {α β : Type} {m : Machine}

namespace EvalM

/-- From states that agree with `m` the computation gives `a` and leaves a state that agrees
with `m`. -/
def Returns (m : Machine) (x : EvalM α) (a : α) : Prop :=
  ∀ m', Agree m m' → (x.run m').1 = a ∧ Agree m (x.run m').2

namespace Returns

variable {x : EvalM α} {a : α} {b : β}

theorem pure (a : α) : Returns m (Pure.pure a) a := fun _ h => ⟨rfl, h⟩

theorem bind {f : α → EvalM β} (hx : Returns m x a) (hf : Returns m (f a) b) :
    Returns m (x >>= f) b := by
  intro m' h
  obtain ⟨hvalue, hagree⟩ := hx m' h
  rw [run_bind, hvalue]
  exact hf _ hagree

/-- The definitions are those of `m`. -/
theorem scopes_bind {f : Scopes → EvalM β} (hf : Returns m (f m.scopes) b) :
    Returns m (EvalM.scopes >>= f) b := by
  intro m' h
  rw [run_bind, run_scopes, ← h.scopes]
  exact hf m' h

/-- No rule applies with the definitions of `m`. -/
theorem unresolved_bind {e : Expr} {f : Option Expr → EvalM β}
    (h : ∀ s, m.scopes.resolve? e s = none) (hf : Returns m (f none) b) :
    Returns m (EvalM.resolve? e >>= f) b := by
  intro m' hm'
  rw [run_bind, run_resolve?_of_none (hm'.scopes ▸ h)]
  exact hf m' hm'

theorem recordStep (before after : Expr) : Returns m (EvalM.recordStep before after) () := by
  intro m' h
  obtain ⟨steps, events, hrun⟩ := run_recordStep before after m'
  exact hrun ▸ ⟨rfl, h.scopes, h.depth, h.lastFresh, h.answers⟩

theorem deeper (hx : Returns m.descend x a) : Returns m (EvalM.deeper x) a := by
  intro m' h
  obtain ⟨hvalue, hagree⟩ := hx m'.descend h.descend
  exact ⟨hvalue, hagree.scopes, congrArg (· - 1) hagree.depth, hagree.lastFresh, hagree.answers⟩

end Returns

end EvalM

open EvalM (Returns)

namespace Evaluator

variable {ev : Evaluator} {evaluate : Expr → EvalM Expr} {attributes : Attributes}
  {name : String} {marked : Bool} {head e v : Expr} {es vs args : List Expr} {r : Reduced}

/-! ### A step -/

/-- The arguments that the attributes let are all evaluated up to the first that fails. -/
theorem returns_evaluateArgs (hall : ∀ index, attributes.evaluates index)
    (h : List.Forall₂ (fun e v => Returns m (evaluate e) v) es vs) (index : Nat) :
    Returns m (evaluateArgs evaluate attributes index es) (unfailed vs) := by
  induction h generalizing index with
  | nil => exact .pure _
  | @cons e v es vs he _ ih =>
      rw [evaluateArgs_cons, if_pos (hall index), unfailed_cons]
      refine he.bind ?_
      split
      · exact .pure _
      · refine (ih (index + 1)).bind ?_
        cases unfailed vs <;> exact .pure _

theorem evaluateArgs_holdAll (evaluate : Expr → EvalM Expr) (index : Nat) (es : List Expr) :
    evaluateArgs evaluate { holdAll := true } index es = pure (.ok es) := by
  induction es generalizing index with
  | nil => rfl
  | cons e es ih => simp [evaluateArgs_cons, Attributes.evaluates, ih]

theorem returns_reduce_symbol (h : ∀ s, m.scopes.resolve? (.symbol name marked) s = none) :
    Returns m (ev.reduce evaluate (.symbol name marked)) (.plain (.symbol name marked)) := by
  rw [reduce_symbol]
  exact .unresolved_bind h (.pure _)

/-- An application that no rule, function or operation applies to is left as it is. -/
theorem returns_reduceCall_of_free (hlistable : attributes.listable = false)
    (hrules : ∀ s, m.scopes.resolve? (.app head args) s = none)
    (hfunction : head.isCall "Func" = false)
    (hoperation : ∀ name, head.symbol? = some name → ev.operations.get? name = none) :
    Returns m (ev.reduceCall evaluate attributes head args) (.plain (.app head args)) := by
  simp only [reduceCall_eq, hlistable, hfunction, Bool.false_and, Bool.false_eq_true, if_false]
  refine .unresolved_bind hrules ?_
  cases hname : head.symbol? with
  | none => exact .pure _
  | some name =>
      simp only [dispatch, hoperation name hname]
      exact .pure _

/-- An operation that only computes with its arguments changes nothing. -/
theorem returns_reduceCall_of_operation {minArgs : Nat} {f : List Expr → Except Failure Expr}
    (hlistable : attributes.listable = false)
    (hrules : ∀ s, m.scopes.resolve? (.app (.symbol name marked) args) s = none)
    (hoperation : ev.operations.get? name = some (.ofFunction minArgs f))
    (hmin : minArgs ≤ args.length) (hf : f args = .ok v) :
    Returns m (ev.reduceCall evaluate attributes (.symbol name marked) args) (.plain v) := by
  simp only [reduceCall_eq, hlistable, Bool.false_and, Bool.false_eq_true, if_false]
  refine .unresolved_bind hrules ?_
  simp only [Expr.isCall, Expr.symbol?, dispatch, hoperation, Expr.args, Operation.ofFunction, hf,
    if_neg (Nat.not_lt.mpr hmin), Bool.false_eq_true, if_false]
  exact .pure _

section Apply

variable {held : Bool}

variable (hhead : Returns m (evaluate head) v) (hok : v.isAbort = false)
include hhead hok

theorem returns_reduce_of_ok
    (hargs : Returns m (evaluateArgs evaluate (attributesOf m.scopes v) 0 args) (.ok vs))
    (hcall : Returns m (ev.reduceCall evaluate (attributesOf m.scopes v) v
      (arrange (attributesOf m.scopes v) v.symbol? vs)) r) :
    Returns m (ev.reduce evaluate (.apply head args held)) r := by
  rw [reduce_apply]
  refine hhead.bind ?_
  rw [reduceApplied, if_neg (by simp [hok])]
  exact .scopes_bind (hargs.bind hcall)

/-- A head that holds all arguments gets them as they are. -/
theorem returns_reduce_of_holdAll
    (hattributes : attributesOf m.scopes v = { holdAll := true })
    (hcall : Returns m (ev.reduceCall evaluate { holdAll := true } v args) r) :
    Returns m (ev.reduce evaluate (.apply head args held)) r := by
  have hargs : Returns m (evaluateArgs evaluate (attributesOf m.scopes v) 0 args) (.ok args) := by
    rw [hattributes, evaluateArgs_holdAll]
    exact .pure _
  have harranged : arrange { holdAll := true } v.symbol? args = args := by
    cases v.symbol? <;> rfl
  refine returns_reduce_of_ok hhead hok hargs ?_
  rw [hattributes, harranged]
  exact hcall

end Apply

/-! ### Settling -/

theorem returns_advance {reduce : Expr → EvalM Reduced} (input : Expr)
    (h : Returns m (reduce e) r) : Returns m (advance reduce input e) r := by
  rw [advance_eq]
  refine h.bind ?_
  split
  · exact (Returns.recordStep e r.expr).bind (.pure r)
  · exact .pure r

section Settle

variable {reduce : Expr → EvalM Reduced} {input : Expr} (h : Returns m (reduce e) r)
include h

/-- Settling ends with a step that is the last one. -/
theorem returns_settle_of_last (hlast : r.isActive e = false) (remaining : Nat) :
    Returns m (settle reduce input remaining e) r.expr := by
  have hlast' : ¬ r.isActive e := by simp [hlast]
  cases remaining with
  | zero =>
      rw [settle_zero]
      exact (returns_advance input h).bind (by rw [if_neg hlast']; exact .pure _)
  | succ remaining =>
      rw [settle_succ]
      exact (returns_advance input h).bind (by rw [if_neg hlast']; exact .pure _)

/-- Else it goes on from the result of the step. -/
theorem returns_settle_of_next {remaining : Nat} (hgoes : r.isActive e)
    (hrest : Returns m (settle reduce input remaining r.expr) v) :
    Returns m (settle reduce input (remaining + 1) e) v := by
  rw [settle_succ]
  exact (returns_advance input h).bind (by rw [if_pos hgoes]; exact hrest)

end Settle

/-! ### An evaluation -/

theorem returns_of_isHeld (h : e.isHeld) : Returns m (ev.evaluate e) e :=
  fun m' hagree => by rw [evaluate_run_of_isHeld h]; exact ⟨rfl, hagree⟩

theorem returns_of_settle (hev : ev.IsStepwise) (hheld : e.isHeld = false)
    (hdepth : m.depth < ev.limits.recursion)
    (h : Returns m.descend (settle (ev.reduce ev.evaluate) e ev.limits.iterations e) v) :
    Returns m (ev.evaluate e) v := by
  intro m' hagree
  rw [evaluate_run hev hheld (hagree.depth ▸ hdepth)]
  exact h.deeper m' hagree

/-- An evaluation ends with its first step if that is the last one. -/
theorem returns_of_last (hev : ev.IsStepwise) (hheld : e.isHeld = false)
    (hdepth : m.depth < ev.limits.recursion)
    (h : Returns m.descend (ev.reduce ev.evaluate e) r) (hlast : r.isActive e = false) :
    Returns m (ev.evaluate e) r.expr :=
  returns_of_settle hev hheld hdepth (returns_settle_of_last h hlast _)

/-- A symbol without rules evaluates to itself. -/
theorem returns_symbol (hev : ev.IsStepwise) (hdepth : m.depth < ev.limits.recursion)
    (h : ∀ s, m.scopes.resolve? (.symbol name marked) s = none) :
    Returns m (ev.evaluate (.symbol name marked)) (.symbol name marked) := by
  cases marked with
  | true => exact returns_of_isHeld rfl
  | false =>
      have hreduce : Returns m.descend (ev.reduce ev.evaluate (.symbol name false))
          (.plain (.symbol name false)) := returns_reduce_symbol h
      exact returns_of_last hev rfl hdepth hreduce (Reduced.isActive_plain_self _)

end Evaluator

end Reduct
