import Reduct.Proofs.Evaluation.Limits

/-!
# Raising the limits

The limits show in an evaluation only where they cut something short, and that is counted
(`Machine.cutShort`). The count never goes down, so if it is the same after an evaluation as before,
nothing inside was cut short, whatever became of the failures in between. Such an evaluation goes
the same way under higher limits, step by step: `EvalM.Extends` is this relation between two
computations, and everything that steps are made of respects it.
-/

namespace Reduct

open EvalM (Elementary)

variable {α β : Type}

/-! ### Computations that are cut short less often -/

namespace EvalM

/-- Where nothing is cut short in `x`, `y` does the same. -/
structure Extends (x y : EvalM α) : Prop where
  counts : x.Keeps fun m m' => m.cutShort ≤ m'.cutShort
  agrees : ∀ m, (x.run m).2.cutShort = m.cutShort → y.run m = x.run m

theorem counts_elementary {x : EvalM α} (hx : Elementary x) :
    x.Keeps fun m m' => m.cutShort ≤ m'.cutShort := by
  intro m
  cases hx with
  | scopes | write w | drawFresh | noteRenaming args number value | setTracing on =>
      exact Nat.le_refl _
  | rewriting rewrite counts =>
      rw [run_rewriting]
  | cutShort e limit => exact Nat.le_succ _
  | report event =>
      obtain ⟨events, h⟩ := run_report event m
      exact h ▸ Nat.le_refl _
  | recordStep before after =>
      obtain ⟨steps, events, h⟩ := run_recordStep before after m
      exact h ▸ Nat.le_refl _

namespace Extends

theorem refl {x : EvalM α} (hx : x.Keeps fun m m' => m.cutShort ≤ m'.cutShort) : Extends x x :=
  ⟨hx, fun _ _ => rfl⟩

theorem pure (a : α) : Extends (Pure.pure a) (Pure.pure a) := .refl fun _ => Nat.le_refl _

/-- Nothing is to be shown where something is cut short. -/
theorem cutShort (e : Expr) (limit : Failure) (y : EvalM Expr) :
    Extends (EvalM.cutShort e limit) y where
  counts _ := Nat.le_succ _
  agrees _ h := absurd h (Nat.succ_ne_self _)

theorem bind {x y : EvalM α} {f g : α → EvalM β} (hx : Extends x y)
    (hf : ∀ a, Extends (f a) (g a)) : Extends (x >>= f) (y >>= g) where
  counts m := Nat.le_trans (hx.counts m) ((hf _).counts _)
  agrees m h := by
    rw [run_bind] at h
    have hfirst := hx.counts m
    have hthen := (hf (x.run m).1).counts (x.run m).2
    rw [run_bind, run_bind, hx.agrees m (by omega)]
    exact (hf _).agrees _ (by omega)

theorem ite {c : Prop} [Decidable c] {x x' y y' : EvalM α} (hx : Extends x x')
    (hy : Extends y y') : Extends (if c then x else y) (if c then x' else y') := by
  split
  · exact hx
  · exact hy

theorem inScope {x y : EvalM α} (locals : List String) (hx : Extends x y) :
    Extends (EvalM.inScope locals x) (EvalM.inScope locals y) := by
  have hopen : Extends (openScope locals) (openScope locals) := .refl fun m => by
    obtain ⟨events, h⟩ := run_openScope locals m
    exact h ▸ Nat.le_refl _
  have hclose : Extends closeScope closeScope := .refl fun m => by
    obtain ⟨events, h⟩ := run_closeScope m
    exact h ▸ Nat.le_refl _
  exact hopen.bind fun _ => hx.bind fun a => hclose.bind fun _ => .pure a

theorem deeper {x y : EvalM α} (hx : Extends x y) : Extends (EvalM.deeper x) (EvalM.deeper y) where
  counts m := hx.counts m.descend
  agrees m h := by
    rw [Evaluator.run_deeper, Evaluator.run_deeper, hx.agrees m.descend h]

end Extends

end EvalM

open EvalM (Extends)

variable {evaluate evaluate' : Expr → EvalM Expr}

/-- What is made up of evaluations extends with them. -/
theorem Stepwise.extends {x : (Expr → EvalM Expr) → EvalM α}
    (hcall : ∀ e, Extends (evaluate e) (evaluate' e)) (hx : Stepwise x) :
    Extends (x evaluate) (x evaluate') := by
  induction hx with
  | pure a => exact .pure a
  | bind _ _ ihx ihf => exact ihx.bind ihf
  | call e => exact hcall e
  | elementary hx => exact .refl (EvalM.counts_elementary hx)
  | inScope locals _ ih => exact ih.inScope locals

/-! ### Evaluation -/

namespace Evaluator

/-- A step does not look at the limits. -/
theorem reduce_eq_of_operations (limits limits' : Limits) (operations : Operations)
    (evaluate : Expr → EvalM Expr) :
    (⟨limits, operations⟩ : Evaluator).reduce evaluate =
      (⟨limits', operations⟩ : Evaluator).reduce evaluate := by
  funext e
  cases e <;> rfl

variable {operations : Operations} {limits limits' : Limits}

/-- Settling with more steps left. -/
theorem extends_settle (hev : (⟨limits, operations⟩ : Evaluator).IsStepwise)
    (hcall : ∀ e, Extends (evaluate e) (evaluate' e)) {remaining remaining' : Nat}
    (h : remaining ≤ remaining') (input e : Expr) :
    let ev : Evaluator := ⟨limits, operations⟩
    Extends (settle (ev.reduce evaluate) input remaining e)
      (settle (ev.reduce evaluate') input remaining' e) := by
  intro ev
  have hadvance (e : Expr) := (stepwise_advance hev input e).extends hcall
  induction remaining generalizing remaining' e with
  | zero =>
      -- The one step that is left is the last, unless it is cut short.
      cases remaining' with
      | zero =>
          rw [settle_zero, settle_zero]
          exact (hadvance e).bind fun _ => .ite (.cutShort _ _ _) (.pure _)
      | succ remaining' =>
          rw [settle_zero, settle_succ]
          exact (hadvance e).bind fun _ => .ite (.cutShort _ _ _) (.pure _)
  | succ remaining ih =>
      obtain ⟨remaining', rfl⟩ := Nat.exists_eq_add_of_le' (Nat.le_trans (Nat.le_add_left 1 _) h)
      rw [settle_succ, settle_succ]
      exact (hadvance e).bind fun r => .ite (ih (Nat.le_of_succ_le_succ h) r.expr) (.pure _)

/-- Evaluation with more levels and more steps left. -/
theorem extends_evaluateWithin (hev : (⟨limits, operations⟩ : Evaluator).IsStepwise)
    (hiterations : limits.iterations ≤ limits'.iterations) {levels levels' : Nat}
    (h : levels ≤ levels') (e : Expr) :
    Extends ((⟨limits, operations⟩ : Evaluator).evaluateWithin levels e)
      ((⟨limits', operations⟩ : Evaluator).evaluateWithin levels' e) := by
  induction levels generalizing levels' e with
  | zero =>
      cases levels' with
      | zero =>
          rw [evaluateWithin_zero, evaluateWithin_zero]
          exact .ite (.pure e) (.cutShort e _ _)
      | succ levels' =>
          rw [evaluateWithin_zero, evaluateWithin_succ]
          exact .ite (.pure e) (.cutShort e _ _)
  | succ levels ih =>
      obtain ⟨levels', rfl⟩ := Nat.exists_eq_add_of_le' (Nat.le_trans (Nat.le_add_left 1 _) h)
      rw [evaluateWithin_succ, evaluateWithin_succ, reduce_eq_of_operations limits' limits]
      refine .ite (.pure e) (.deeper ?_)
      exact extends_settle hev (ih (Nat.le_of_succ_le_succ h)) hiterations e e

/-- **Raising the limits changes no evaluation that did not hit them.** If no evaluation was cut
short, at any level, then under higher limits the same expression comes to the same value, and the
state after it is the same: definitions, recorded steps, names drawn and all else. -/
theorem evaluate_raised (groups : List Group) (limits limits' : Limits)
    (hiterations : limits.iterations ≤ limits'.iterations)
    (hrecursion : limits.recursion ≤ limits'.recursion) (e : Expr) (m : Machine) :
    let ev : Evaluator := ⟨limits, .ofGroups groups⟩
    let ev' : Evaluator := ⟨limits', .ofGroups groups⟩
    ((ev.evaluate e).run m).2.cutShort = m.cutShort →
      (ev'.evaluate e).run m = (ev.evaluate e).run m := by
  intro ev ev' h
  rw [run_evaluate] at h
  rw [run_evaluate, run_evaluate]
  exact (extends_evaluateWithin (isStepwise_ofGroups limits groups) hiterations
    (Nat.sub_le_sub_right hrecursion m.depth) e).agrees m h

/-- The least limits under which a function is applied to the end, and the usual ones. -/
theorem evaluate_raised_call :
    let ev : Evaluator := ⟨⟨1, 3⟩, .ofGroups []⟩
    let ev' : Evaluator := ⟨{}, .ofGroups []⟩
    let e : Expr := .app (.call "Func" [.sym "x", .call "g" [.sym "x"]]) [.sym "y"]
    let m : Machine := { scopes := .initial, isTracing := true }
    1 ≤ 1024 ∧ 3 ≤ 256 ∧ ((ev.evaluate e).run m).2.cutShort = m.cutShort ∧
    ((ev.evaluate e).run m).1.render = "g[y]" ∧
    (ev'.evaluate e).run m = (ev.evaluate e).run m := by
  intro ev ev' e m
  have hcount : ((ev.evaluate e).run m).2.cutShort = m.cutShort := by decide +kernel
  exact ⟨by decide, by decide, hcount, by decide +kernel,
    evaluate_raised [] ⟨1, 3⟩ {} (by decide) (by decide) e m hcount⟩

end Evaluator

end Reduct
