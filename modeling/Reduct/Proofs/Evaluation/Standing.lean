import Mathlib.Data.List.Forall2
import Reduct.Proofs.Evaluation.Agreement
import Reduct.Proofs.Evaluation.RaisedLimits
import Reduct.Proofs.Expr.Reading
import Reduct.Proofs.Expr.Sharing

/-!
# What evaluations come to

As long as no limit cuts anything short, the levels and steps that are left do not show in an
evaluation. `EvalM.ComesTo` says of a computation what it then gives, whatever its rewritings are
told of shared nodes, and that it leaves the state like the one it started from. Where something is
cut short it says nothing, so that it can be shown for all levels at once, and steps are put
together without counting.

A symbol is free if it has neither rules nor an operation (`Evaluator.IsFree`). A step evaluates
the arguments of its applications, arranges them and threads over lists, and does nothing else
(`Evaluator.comesTo_reduce_app`).
-/

namespace Reduct

namespace Expr

theorem eq_of_isAbort {e : Expr} (h : e.isAbort) :
    ∃ marked cause message held,
      e = .apply (.symbol "Abort" marked) [cause, .string message] held := by
  unfold isAbort abortMessage? at h
  split at h
  · exact ⟨_, _, _, _, rfl⟩
  · simp at h

theorem isAbort_apply_of_ne {name : String} (h : name ≠ "Abort") (marked : Bool)
    (args : List Expr) (held : Bool) :
    (apply (.symbol name marked) args held).isAbort = false := by
  by_contra habort
  obtain ⟨_, _, _, _, heq⟩ := eq_of_isAbort (Bool.eq_true_of_not_eq_false habort)
  cases heq
  exact h rfl

end Expr

/-- Nothing is made of an expression whose symbol has no rules. -/
theorem Scopes.resolve?_eq_none_of_owner {scopes : Scopes} {name : String} {e : Expr}
    (howner : e.owner? = some name) (h : ∀ version ∈ scopes.chain name, version.rules.rules = [])
    (s : Sharing) : scopes.resolve? e s = none := by
  rw [resolve?, howner]
  refine List.findSome?_eq_none_iff.mpr fun version hversion => ?_
  rw [RuleSet.resolve?, h version hversion]
  rfl

open Machine (Alike)

variable {α β : Type} {m : Machine}

/-! ### Computations that nothing cuts short -/

namespace EvalM

/-- The computation does not lower the count of what was cut short. -/
abbrev Counts (x : EvalM α) : Prop := x.Keeps fun m m' => m.cutShort ≤ m'.cutShort

namespace Counts

theorem pure (a : α) : Counts (Pure.pure a) := fun _ => Nat.le_refl _

theorem bind {x : EvalM α} {f : α → EvalM β} (hx : x.Counts) (hf : ∀ a, (f a).Counts) :
    (x >>= f).Counts :=
  fun m => Nat.le_trans (hx m) (hf _ _)

end Counts

/-- From states like `m` the computation gives `a` and a state like `m`, unless something is cut
short. -/
structure ComesTo (m : Machine) (x : EvalM α) (a : α) : Prop where
  counts : ∀ m', Alike m m' → m'.cutShort ≤ (x.run m').2.cutShort
  result : ∀ m', Alike m m' → (x.run m').2.cutShort = m'.cutShort →
    (x.run m').1 = a ∧ Alike m (x.run m').2

namespace ComesTo

variable {x : EvalM α} {a : α} {b : β}

theorem pure (a : α) : ComesTo m (Pure.pure a) a :=
  ⟨fun m' _ => Counts.pure a m', fun _ h _ => ⟨rfl, h⟩⟩

theorem recordStep (before after : Expr) : ComesTo m (EvalM.recordStep before after) () where
  counts m' _ := counts_elementary (.recordStep before after) m'
  result m' h _ := by
    obtain ⟨steps, events, hrun⟩ := run_recordStep before after m'
    exact hrun ▸ ⟨rfl, h.scopes, h.lastFresh⟩

/-- What is cut short comes to anything. -/
theorem cutShort (e : Expr) (limit : Failure) (v : Expr) :
    ComesTo m (EvalM.cutShort e limit) v where
  counts m' _ := counts_elementary (.cutShort e limit) m'
  result _ _ h := absurd h (Nat.succ_ne_self _)

theorem bind {f : α → EvalM β} (hx : ComesTo m x a) (hcounts : ∀ a, (f a).Counts)
    (hf : ComesTo m (f a) b) : ComesTo m (x >>= f) b where
  counts m' h := Nat.le_trans (hx.counts m' h) (hcounts _ _)
  result m' h hcut := by
    rw [run_bind] at hcut ⊢
    have hfirst := hx.counts m' h
    have hthen := hcounts (x.run m').1 (x.run m').2
    obtain ⟨hvalue, halike⟩ := hx.result m' h (by omega)
    rw [hvalue] at hcut hthen ⊢
    exact hf.result _ halike (by omega)

/-- The definitions are those of `m`. -/
theorem scopes_bind {f : Scopes → EvalM β} (hf : ComesTo m (f m.scopes) b) :
    ComesTo m (EvalM.scopes >>= f) b where
  counts m' h := by
    rw [run_bind, run_scopes, ← h.scopes]
    exact hf.counts m' h
  result m' h := by
    rw [run_bind, run_scopes, ← h.scopes]
    exact hf.result m' h

/-- No rule applies with the definitions of `m`. -/
theorem unresolved_bind {e : Expr} {f : Option Expr → EvalM β}
    (h : ∀ s, m.scopes.resolve? e s = none) (hf : ComesTo m (f none) b) :
    ComesTo m (EvalM.resolve? e >>= f) b where
  counts m' hm' := by
    rw [run_bind, run_resolve?_of_none (hm'.scopes ▸ h)]
    exact hf.counts m' hm'
  result m' hm' := by
    rw [run_bind, run_resolve?_of_none (hm'.scopes ▸ h)]
    exact hf.result m' hm'

theorem deeper (hx : ComesTo m x a) : ComesTo m (EvalM.deeper x) a where
  counts m' h := hx.counts m'.descend ⟨h.scopes, h.lastFresh⟩
  result m' h hcut := by
    rw [Evaluator.run_deeper] at hcut ⊢
    obtain ⟨hvalue, halike⟩ := hx.result m'.descend ⟨h.scopes, h.lastFresh⟩ hcut
    exact ⟨hvalue, halike.scopes, halike.lastFresh⟩

end ComesTo

end EvalM

open EvalM (Counts ComesTo)

theorem Stepwise.counts {evaluate : Expr → EvalM Expr} {x : (Expr → EvalM Expr) → EvalM α}
    (hx : Stepwise x) (hcall : ∀ e, (evaluate e).Counts) : (x evaluate).Counts :=
  (hx.extends fun e => .refl (hcall e)).counts

namespace Evaluator

variable {ev : Evaluator} {name : String} {levels : Nat} {input e v : Expr} {r : Reduced}

theorem counts_evaluateWithin (hev : ev.IsStepwise) (levels : Nat) (e : Expr) :
    (ev.evaluateWithin levels e).Counts :=
  (extends_evaluateWithin hev (Nat.le_refl _) (Nat.le_refl levels) e).counts

/-! ### Settling -/

/-- Settling from `e`, with so many levels left, comes to `v`, however many steps are left. -/
def Settles (ev : Evaluator) (levels : Nat) (m : Machine) (input e v : Expr) : Prop :=
  ∀ remaining,
    ComesTo m (settle (ev.reduce (ev.evaluateWithin levels)) input remaining e) v

theorem comesTo_advance {reduce : Expr → EvalM Reduced} (input : Expr)
    (h : ComesTo m (reduce e) r) : ComesTo m (advance reduce input e) r := by
  rw [advance_eq]
  refine h.bind (fun r => ?_) ?_
  · split
    · exact .bind (EvalM.counts_elementary (.recordStep _ _)) fun _ => .pure r
    · exact .pure r
  · split
    · exact (ComesTo.recordStep e r.expr).bind (fun _ => .pure r) (.pure r)
    · exact .pure r

theorem counts_settle (hev : ev.IsStepwise) (levels : Nat) (input : Expr) (remaining : Nat)
    (e : Expr) : (settle (ev.reduce (ev.evaluateWithin levels)) input remaining e).Counts :=
  (stepwise_settle hev input remaining e).counts (counts_evaluateWithin hev levels)

/-- Settling comes to the result of a step that is the last one, and else to what it comes to from
there. -/
theorem Settles.of_step (hev : ev.IsStepwise)
    (h : ComesTo m (ev.reduce (ev.evaluateWithin levels) e) r)
    (hlast : r.isActive e = false → r.expr = v)
    (hnext : r.isActive e → ev.Settles levels m input r.expr v) :
    ev.Settles levels m input e v := by
  have hadvance := comesTo_advance input h
  intro remaining
  cases remaining with
  | zero =>
      rw [settle_zero]
      refine hadvance.bind (fun r => ?_) ?_
      · split
        · exact EvalM.counts_elementary (.cutShort _ _)
        · exact .pure r.expr
      · split
        next => exact .cutShort _ _ v
        next hinactive => exact hlast (by simpa using hinactive) ▸ .pure r.expr
  | succ remaining =>
      rw [settle_succ]
      refine hadvance.bind (fun r => ?_) ?_
      · split
        · exact counts_settle hev levels input remaining r.expr
        · exact .pure r.expr
      · split
        next hactive => exact hnext hactive remaining
        next hinactive => exact hlast (by simpa using hinactive) ▸ .pure r.expr

/-- Settling comes to the result of a step that taken from it gives it again. -/
theorem Settles.of_stable (hev : ev.IsStepwise)
    (h : ComesTo m (ev.reduce (ev.evaluateWithin levels) e) (.plain v))
    (hstable : ComesTo m (ev.reduce (ev.evaluateWithin levels) v) (.plain v)) :
    ev.Settles levels m input e v := by
  have hself : ev.Settles levels m input v v :=
    .of_step hev hstable (fun _ => rfl) fun hactive =>
      absurd hactive (Bool.eq_false_iff.mp (Reduced.isActive_plain_self v))
  exact .of_step hev h (fun _ => rfl) fun _ => hself

/-! ### Expressions that come to themselves -/

theorem comesTo_of_isHeld (hheld : e.isHeld) : ComesTo m (ev.evaluateWithin levels e) e := by
  cases levels with
  | zero =>
      rw [evaluateWithin_zero, if_pos hheld]
      exact .pure e
  | succ levels =>
      rw [evaluateWithin_succ, if_pos hheld]
      exact .pure e

/-- An evaluation comes to what its expression settles to. -/
theorem comesTo_of_settles (hheld : e.isHeld = false)
    (h : ∀ inner, levels = inner + 1 → ev.Settles inner m e e v) :
    ComesTo m (ev.evaluateWithin levels e) v := by
  cases levels with
  | zero =>
      rw [evaluateWithin_zero, if_neg (by simp [hheld])]
      exact .cutShort e _ v
  | succ levels =>
      rw [evaluateWithin_succ, if_neg (by simp [hheld])]
      exact .deeper (h levels rfl ev.limits.iterations)

/-- From the state `m`, whatever its rewritings are told of shared nodes, the expression evaluates
to exactly itself, marks and all, and leaves definitions and names drawn as they are. -/
def Inert (ev : Evaluator) (m : Machine) (e : Expr) : Prop :=
  ∀ sharing : Nat → Sharing, let result := (ev.evaluate e).run { m with sharing }
    result.1 = e ∧ Alike m result.2

/-- In evaluations inside one from the state `m`, the expression comes to itself. -/
def Stands (ev : Evaluator) (m : Machine) (e : Expr) : Prop :=
  ∀ levels ≤ ev.limits.recursion - m.depth, ComesTo m (ev.evaluateWithin levels e) e

/-- What evaluates to itself does so with fewer levels, unless it is cut short. -/
theorem Inert.stands (hev : ev.IsStepwise) (h : ev.Inert m e) : ev.Stands m e := by
  intro levels hlevels
  refine ⟨fun m' _ => counts_evaluateWithin hev levels e m', fun m' hm' hcut => ?_⟩
  have hraised := (extends_evaluateWithin hev (Nat.le_refl _) hlevels e).agrees m' hcut
  -- The state `m` in step with the other one.
  let sharing : Nat → Sharing := fun n => m'.sharing (m'.rewritings + (n - m.rewritings))
  have hstep : Machine.InStep { m with sharing } m' := by
    refine ⟨hm'.scopes, hm'.lastFresh, funext fun n => ?_⟩
    simp [Machine.answers, sharing]
  obtain ⟨hvalue, hstate⟩ := respects_evaluateWithin_inStep hev _ e { m with sharing } m' hstep
  obtain ⟨hself, halike⟩ := h sharing
  rw [← hraised]
  exact ⟨hvalue.symm.trans hself, halike.trans ⟨hstate.scopes, hstate.lastFresh⟩⟩

/-- What may stand beside applications of `name`: it is not one of them, has not failed, and
evaluates to itself. -/
structure IsLeaf (ev : Evaluator) (m : Machine) (name : String) (e : Expr) : Prop where
  not_isCall : e.isCall name = false
  not_isAbort : e.isAbort = false
  inert : ev.Inert m e

/-! ### Free symbols -/

/-- The symbol has neither rules nor an operation. -/
structure IsFree (ev : Evaluator) (s : Scopes) (name : String) : Prop where
  rules : ∀ version ∈ s.chain name, version.rules.rules = []
  operation : ev.operations.get? name = none

theorem IsFree.resolve?_eq_none {scopes : Scopes} (h : ev.IsFree scopes name)
    (howner : e.owner? = some name) (s : Sharing) : scopes.resolve? e s = none :=
  Scopes.resolve?_eq_none_of_owner howner h.rules s

/-- A free symbol comes to itself. -/
theorem IsFree.stands (hev : ev.IsStepwise) (h : ev.IsFree m.scopes name) (marked : Bool) :
    ev.Stands m (.symbol name marked) := by
  intro levels _
  cases marked with
  | true => exact comesTo_of_isHeld rfl
  | false =>
      refine comesTo_of_settles rfl fun inner _ => ?_
      have hreduce : ComesTo m (ev.reduce (ev.evaluateWithin inner) (.symbol name false))
          (.plain (.symbol name false)) := by
        rw [reduce_symbol]
        exact .unresolved_bind (h.resolve?_eq_none rfl) (.pure _)
      exact .of_stable hev hreduce hreduce

/-! ### Applications of free symbols -/

/-- The values, or the first failure among them. -/
def unfailed (values : List Expr) : Except Expr (List Expr) :=
  match values.find? Expr.isAbort with
  | some failed => .error failed
  | none => .ok values

theorem unfailed_cons (value : Expr) (values : List Expr) :
    unfailed (value :: values) =
      if value.isAbort then .error value else (unfailed values).map (value :: ·) := by
  simp only [unfailed, List.find?_cons]
  cases value.isAbort with
  | true => rfl
  | false => cases values.find? Expr.isAbort <;> rfl

theorem unfailed_eq_ok {values : List Expr} (h : ∀ v ∈ values, v.isAbort = false) :
    unfailed values = .ok values := by
  rw [unfailed, List.find?_eq_none.mpr fun v hv => by simp [h v hv]]

/-- What a step makes of the application of a free symbol, from the values of its arguments. -/
def assembled (attributes : Attributes) (head : Expr) (values : List Expr) : Expr :=
  match unfailed values with
  | .error failed => failed
  | .ok values =>
    let args := arrange attributes head.symbol? values
    if attributes.listable && args.any (Expr.isCall "List") then Expr.thread head args
    else .app head args

/-- The expressions evaluate to these values, one by one. -/
abbrev ComeTo (m : Machine) (evaluate : Expr → EvalM Expr) (es vs : List Expr) : Prop :=
  List.Forall₂ (fun e v => ComesTo m (evaluate e) v) es vs

section Step

variable {evaluate : Expr → EvalM Expr} {es vs : List Expr} {attributes : Attributes}
  (hcounts : ∀ e, (evaluate e).Counts)
include hcounts

theorem comesTo_evaluateArgs (hall : ∀ index, attributes.evaluates index)
    (h : ComeTo m evaluate es vs) (index : Nat) :
    ComesTo m (evaluateArgs evaluate attributes index es) (unfailed vs) := by
  induction h generalizing index with
  | nil => exact .pure _
  | @cons e v es vs he _ ih =>
      have hargs : (evaluateArgs evaluate attributes (index + 1) es).Counts :=
        (silent_evaluateArgs attributes (index + 1) es).stepwise.counts hcounts
      rw [evaluateArgs_cons, if_pos (hall index), unfailed_cons]
      refine he.bind (fun value => ?_) ?_
      · split
        · exact .pure _
        · exact hargs.bind fun values => by cases values <;> exact .pure _
      · split
        · exact .pure _
        · refine (ih (index + 1)).bind (fun values => by cases values <;> exact .pure _) ?_
          cases unfailed vs <;> exact .pure _

omit hcounts in
theorem comesTo_reduceCall (hfree : ev.IsFree m.scopes name) (attributes : Attributes)
    (marked : Bool) (args : List Expr) :
    let head : Expr := .symbol name marked
    ComesTo m (ev.reduceCall evaluate attributes head args)
      (.plain (if attributes.listable && args.any (Expr.isCall "List") then Expr.thread head args
        else .app head args)) := by
  intro head
  simp only [head, reduceCall_eq, Expr.isCall, Expr.symbol?, dispatch, hfree.operation]
  split
  · exact .pure _
  · exact .unresolved_bind (hfree.resolve?_eq_none rfl) (.pure _)

/-- **A step with an application of a free symbol** evaluates the arguments and assembles it anew
from the values. -/
theorem comesTo_reduce_app (hev : ev.IsStepwise) (hfree : ev.IsFree m.scopes name) {marked : Bool}
    (hhead : ComesTo m (evaluate (.symbol name marked)) (.symbol name marked))
    (hall : ∀ index, (Attributes.ofSymbol m.scopes name).evaluates index)
    (hargs : ComeTo m evaluate es vs) :
    ComesTo m (ev.reduce evaluate (.app (.symbol name marked) es))
      (.plain (assembled (Attributes.ofSymbol m.scopes name) (.symbol name marked) vs)) := by
  rw [reduce_apply]
  refine hhead.bind (fun head => (silent_reduceApplied hev es head).stepwise.counts hcounts) ?_
  rw [reduceApplied, if_neg (by simp [Expr.isAbort, Expr.abortMessage?])]
  refine .scopes_bind ((comesTo_evaluateArgs hcounts hall hargs 0).bind (fun values => ?_) ?_)
  · cases values with
    | error failed => exact .pure _
    | ok values => exact (silent_reduceCall hev _ _ _).stepwise.counts hcounts
  · rw [assembled]
    cases unfailed vs with
    | error failed => exact .pure _
    | ok values => exact comesTo_reduceCall hfree _ marked _

end Step

/-- A free symbol comes to itself, so a step with an application of it assembles the application
anew from the values of the arguments. -/
theorem IsFree.comesTo_reduce (hev : ev.IsStepwise) (hfree : ev.IsFree m.scopes name)
    (hall : ∀ index, (Attributes.ofSymbol m.scopes name).evaluates index)
    (hlevels : levels ≤ ev.limits.recursion - m.depth) {es vs : List Expr}
    (hargs : ComeTo m (ev.evaluateWithin levels) es vs) (marked : Bool) :
    ComesTo m (ev.reduce (ev.evaluateWithin levels) (.app (.symbol name marked) es))
      (.plain (assembled (Attributes.ofSymbol m.scopes name) (.symbol name marked) vs)) :=
  comesTo_reduce_app (counts_evaluateWithin hev levels) hev hfree
    (hfree.stands hev marked levels hlevels) hall hargs

theorem comeTo_self {es : List Expr} (h : ∀ e ∈ es, ev.Stands m e)
    (hlevels : levels ≤ ev.limits.recursion - m.depth) :
    ComeTo m (ev.evaluateWithin levels) es es :=
  List.forall₂_same.mpr fun e he => h e he levels hlevels

/-- An application of a free symbol comes to itself if its arguments do and are arranged. -/
theorem IsFree.stands_app (hev : ev.IsStepwise) (hfree : ev.IsFree m.scopes name)
    (hall : ∀ index, (Attributes.ofSymbol m.scopes name).evaluates index) {marked : Bool}
    {args : List Expr} (hargs : ∀ a ∈ args, ev.Stands m a)
    (hassembled : assembled (Attributes.ofSymbol m.scopes name) (.symbol name marked) args =
      .app (.symbol name marked) args) :
    ev.Stands m (.app (.symbol name marked) args) := by
  intro levels hlevels
  refine comesTo_of_settles rfl fun inner hinner => ?_
  have hinside : inner ≤ ev.limits.recursion - m.depth := by omega
  have hreduce := hfree.comesTo_reduce hev hall hinside (comeTo_self hargs hinside) marked
  rw [hassembled] at hreduce
  exact .of_stable hev hreduce hreduce

/-- What the evaluation of an expression comes to is its value, if nothing is cut short, whichever
nodes are shared. -/
theorem value_of_comesTo
    (h : ComesTo m (ev.evaluateWithin (ev.limits.recursion - m.depth) e) v)
    (sharing : Nat → Sharing)
    (hcut : ((ev.evaluate e).run { m with sharing }).2.cutShort = m.cutShort) :
    ((ev.evaluate e).run { m with sharing }).1 = v :=
  (h.result { m with sharing } ⟨rfl, rfl⟩ hcut).1

end Evaluator

/-! ### An expression that evaluates to itself once -/

namespace Unsharing

open Reduct.Expr

/-- What stands for anything in a pattern, under a name. -/
def pattern (name : String) : Expr := call "Pattern" [sym name]

/-- The rule that `a` withdraws and `b` declares again. -/
def toggled : Rule := ⟨call "a" [pattern "u", pattern "v"], call "go" [sym "u", sym "v"]⟩

/-- `a` replaces its first argument by its second in an expression that is held. If both are one
node, it stays held, and `pick` gives the first argument back; else its value is the second. -/
def rules : List Rule := [
  toggled,
  ⟨call "pick" [call "Seq" [pattern "n"]], .string "s"⟩,
  ⟨call "go" [pattern "x", pattern "y"], call "Seq" [
    call "Clear" [toggled.pattern],
    call "Delayed" [sym "b", call "Seq" [call "Clear" [sym "b"],
      call "Delayed" [toggled.pattern, toggled.value], sym "b"]],
    call "a" [call "pick" [call "ReplaceAll" [call "Hold" [call "Seq" [sym "x"]],
      list [call "Entry" [sym "x", sym "y"]]]], sym "y"]]⟩]

/-- The expression for two arguments of `a`. -/
def leaf (first second : Expr) : Expr := call "g" [call "a" [first, second], sym "b"]

/-- The two arguments are one node in the first replacement, and not after that. -/
def sharing (replacement : Nat) : Nat → Sharing :=
  fun n => if n = replacement then .ofAtoms else .never

def evaluator : Evaluator := ⟨⟨8, 16⟩, .ofGroups []⟩

/-- The rules are declared, `b` has had one before, and there are a listable symbol and one that is
flat and orderless. -/
def machine : Machine where
  scopes := Scopes.Write.runAll (rules.map .setRule ++
    [.setRule ⟨sym "b", sym "c"⟩, .clearRule (sym "b"), .setAttributes "f" [sym "Listable"],
      .setAttributes "s" [sym "Flat", sym "Orderless"]]) .initial
  sharing := sharing 2

/-- The expression evaluates to itself, and definitions and names drawn are as before. -/
theorem run_leaf : (evaluator.evaluate (leaf (.string "s") (.string "s"))).run machine =
    (leaf (.string "s") (.string "s"), { machine with deepest := 7, rewritings := 5 }) := by
  cbv

end Unsharing

end Reduct
