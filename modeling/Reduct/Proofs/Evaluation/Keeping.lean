import Reduct.Proofs.Expr.Ordering
import Reduct.Proofs.Operation.Discipline

/-!
# Evaluation keeps to a discipline

What the operations keep to goes through steps and levels: evaluation of an expression with the
properties of a discipline gives an expression with the properties, and the same expression from two
states that the discipline relates (`Evaluator.gives_evaluate`).
-/

namespace Reduct

open EvalM (Gives gives_scopes gives_resolve? gives_applyFunction gives_recordStep gives_cutShort)

namespace Evaluator

variable {D : Discipline} {c : Nat} {e : Expr} {ev : Evaluator} {evaluate : Expr → EvalM Expr}
  {args : List Expr}

/-- Every operation of the evaluator keeps to the discipline. -/
def KeepsTo (D : Discipline) (ev : Evaluator) : Prop :=
  ∀ name operation, ev.operations.get? name = some operation → operation.KeepsTo D

theorem keepsTo_ofGroups (D : Discipline) (limits : Limits) (groups : List Group) :
    (⟨limits, .ofGroups groups⟩ : Evaluator).KeepsTo D := by
  intro name operation h
  dsimp only at h
  exact Operations.keepsTo D groups h

/-! ### A step -/

/-- The property holds of evaluated arguments, or of the failure of one of them. -/
def ArgsKeep (D : Discipline) (c : Nat) : Except Expr (List Expr) → Prop
  | .error failed => D.expr c failed
  | .ok args => ∀ a ∈ args, D.expr c a

theorem expr_arrange (attributes : Attributes) (name : Option String)
    (h : ∀ a ∈ args, D.expr c a) : ∀ a ∈ arrange attributes name args, D.expr c a := by
  have hsort {es : List Expr} (hes : ∀ e ∈ es, D.expr c e) :
      ∀ e ∈ if attributes.orderless then Expr.sortByText es else es, D.expr c e := by
    split
    · exact fun e he => hes e ((Expr.sortByText_perm es).mem_iff.mp he)
    · exact hes
  cases name with
  | none => exact hsort h
  | some name =>
      refine hsort ?_
      split
      · exact (D.kept c).splicedAll name h
      · exact h

section Step

variable (hcall : ∀ (c' : Nat) (e : Expr), D.expr c' e → (evaluate e).Gives D c' D.expr)
include hcall

theorem gives_evaluateArgs (attributes : Attributes) (index : Nat) (h : ∀ a ∈ args, D.expr c a) :
    (evaluateArgs evaluate attributes index args).Gives D c (ArgsKeep D) := by
  induction args generalizing c index with
  | nil => rw [evaluateArgs_nil]; exact .pure fun _ _ => by simp [ArgsKeep]
  | cons e es ih =>
      rw [List.forall_mem_cons] at h
      -- The others are evaluated, behind the value of the first.
      have hothers {c' : Nat} (hc : c ≤ c') {value : Expr} (hvalue : D.expr c' value) :
          (do match ← evaluateArgs evaluate attributes (index + 1) es with
              | .error failed => return .error failed
              | .ok values => return .ok (value :: values) :
            EvalM (Except Expr (List Expr))).Gives D c' (ArgsKeep D) := by
        refine .bind (ih (index + 1) (D.expr_all_mono hc h.2)) fun c'' hc' result hresult => ?_
        cases result with
        | error failed => exact .pure fun _ hc'' => D.expr_mono hc'' hresult
        | ok values =>
            exact .pure fun c''' hc'' => List.forall_mem_cons.mpr
              ⟨D.expr_mono (Nat.le_trans hc' hc'') hvalue, D.expr_all_mono hc'' hresult⟩
      rw [evaluateArgs_cons]
      refine .ite (.bind (hcall c e h.1) fun c' hc value hvalue => .ite (.pure ?_) ?_) ?_
      · exact fun _ hc' => D.expr_mono hc' hvalue
      · exact hothers hc hvalue
      · exact hothers (Nat.le_refl c) h.1

variable (hev : ev.KeepsTo D)
include hev

theorem gives_dispatch {call : Expr} (h : D.expr c call) (name : String) :
    (ev.dispatch evaluate call name).Gives D c fun c result => ∀ e ∈ result, D.expr c e := by
  have habort (failure : Failure) {c' : Nat} (hc : c ≤ c') :
      ∀ e ∈ some (call.abort failure.message), D.expr c' e := by
    rintro _ ⟨⟩
    exact (D.kept c').abort (D.expr_mono hc h) _
  rw [dispatch]
  cases hname : ev.operations.get? name with
  | none => exact .pure fun _ _ => by simp
  | some operation =>
      refine .ite (.pure fun _ hc => habort _ hc) ?_
      have hargs : ∀ a ∈ call.args, D.expr c a := fun _ => (D.kept c).of_mem h
      refine .bind (hev name operation hname c evaluate call.args hcall hargs)
        fun c' hc result hresult => ?_
      cases result with
      | ok value =>
          refine .pure fun c'' hc' e he => ?_
          obtain rfl := Option.some.inj he
          exact D.expr_mono hc' (hresult value rfl)
      | error failure => exact .pure fun c'' hc' => habort failure (Nat.le_trans hc hc')

theorem gives_reduceCall {head : Expr} (attributes : Attributes) (hhead : D.expr c head)
    (hargs : ∀ a ∈ args, D.expr c a) :
    (ev.reduceCall evaluate attributes head args).Gives D c fun c r => D.expr c r.expr := by
  have happ {c' : Nat} (hc : c ≤ c') : D.expr c' (.app head args) :=
    D.expr_mono hc ((D.kept c).app hhead hargs)
  rw [reduceCall_eq]
  refine .ite (.pure fun c' hc => ?_)
    (.bind (gives_resolve? (happ (Nat.le_refl c))) fun c' hc value? hvalue => ?_)
  · exact D.expr_mono hc ((D.kept c).thread hhead hargs)
  cases value? with
  | some value => exact .pure fun _ hc' => D.expr_mono hc' (hvalue value rfl)
  | none =>
      refine .ite (gives_applyFunction (happ hc) (fun _ hpart =>
        D.expr_mono hc ((D.kept c).of_mem hhead hpart)) (D.expr_all_mono hc hargs)) ?_
      cases head.symbol? with
      | none => exact .pure fun _ hc' => happ (Nat.le_trans hc hc')
      | some name =>
          refine .bind (gives_dispatch hcall hev (happ hc) name) fun c'' hc' result hresult => ?_
          cases result with
          | some value => exact .pure fun _ hc'' => D.expr_mono hc'' (hresult value rfl)
          | none => exact .pure fun _ hc'' => happ (by omega)

/-- **A step keeps to the discipline.** -/
theorem gives_reduce (h : D.expr c e) :
    (ev.reduce evaluate e).Gives D c fun c r => D.expr c r.expr := by
  cases e with
  | number value => exact .pure fun c' _ => (D.kept c').number value
  | string text => exact .pure fun c' _ => (D.kept c').string text
  | symbol name held =>
      rw [reduce_symbol]
      refine .bind (gives_resolve? h) fun c' hc value? hvalue => ?_
      cases value? with
      | some value => exact .pure fun _ hc' => D.expr_mono hc' (hvalue value rfl)
      | none => exact .pure fun _ hc' => D.expr_mono (Nat.le_trans hc hc') h
  | apply head args held =>
      rw [reduce_apply]
      refine .bind (hcall c head ((D.kept c).head h)) fun c' hc head' hhead' => ?_
      refine .ite (.pure fun _ hc' => D.expr_mono hc' hhead')
        (.bind gives_scopes fun c'' hc' s hs => ?_)
      refine .bind (gives_evaluateArgs hcall _ 0 fun a ha =>
        D.expr_mono (Nat.le_trans hc hc') ((D.kept c).arg h ha)) fun c''' hc'' result hresult => ?_
      cases result with
      | error failed => exact .pure fun _ hc''' => D.expr_mono hc''' hresult
      | ok values =>
          exact gives_reduceCall hcall hev _ (D.expr_mono (Nat.le_trans hc' hc'') hhead')
            (expr_arrange _ _ hresult)

/-! ### Settling -/

theorem gives_advance (input : Expr) (h : D.expr c e) :
    (advance (ev.reduce evaluate) input e).Gives D c fun c r => D.expr c r.expr := by
  rw [advance_eq]
  refine .bind (gives_reduce hcall hev h) fun c' hc r hr => ?_
  refine .ite (.bind (gives_recordStep _ _) fun c'' hc' _ _ => .pure fun _ hc'' => ?_)
    (.pure fun _ hc' => D.expr_mono hc' hr)
  exact D.expr_mono (Nat.le_trans hc' hc'') hr

theorem gives_settle (input : Expr) (remaining : Nat) (h : D.expr c e) :
    (settle (ev.reduce evaluate) input remaining e).Gives D c D.expr := by
  induction remaining generalizing c e with
  | zero =>
      rw [settle_zero]
      refine .bind (gives_advance hcall hev input h) fun c' _ r hr => ?_
      exact .ite (gives_cutShort hr _) (.pure fun _ hc => D.expr_mono hc hr)
  | succ remaining ih =>
      rw [settle_succ]
      refine .bind (gives_advance hcall hev input h) fun c' _ r hr => ?_
      exact .ite (ih hr) (.pure fun _ hc => D.expr_mono hc hr)

end Step

theorem gives_evaluateWithin (hev : ev.KeepsTo D) (levels : Nat) (c : Nat) (e : Expr)
    (h : D.expr c e) : (ev.evaluateWithin levels e).Gives D c D.expr := by
  induction levels generalizing c e with
  | zero =>
      rw [evaluateWithin_zero]
      exact .ite (.pure fun _ hc => D.expr_mono hc h) (gives_cutShort h _)
  | succ levels ih =>
      rw [evaluateWithin_succ]
      exact .ite (.pure fun _ hc => D.expr_mono hc h) (.deeper (gives_settle ih hev e _ h))

/-- **An evaluation keeps to the discipline.** -/
theorem gives_evaluate (hev : ev.KeepsTo D) (c : Nat) (e : Expr) (h : D.expr c e) :
    (ev.evaluate e).Gives D c D.expr := by
  intro m m' hm hc
  have hwithin := gives_evaluateWithin hev (ev.limits.recursion - m.depth) c e h m m' hm hc
  have hrun : (ev.evaluate e).run m' =
      (ev.evaluateWithin (ev.limits.recursion - m.depth) e).run m' := by
    rw [hm.depth_eq]
    rfl
  rw [hrun]
  exact hwithin

end Evaluator

end Reduct
