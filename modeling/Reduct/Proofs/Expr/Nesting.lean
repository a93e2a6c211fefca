import Reduct.Evaluator

/-!
# Nested applications of one symbol

An expression that is put together from applications of one symbol is described by the tree of
these applications (`Nesting`), with the other expressions at its leaves. Splicing the applications
into each other lists the leaves, whatever the marks on the way.
-/

namespace Reduct

/-- Applications of one symbol inside each other. -/
inductive Nesting where
  /-- An expression of another kind. -/
  | leaf (e : Expr)
  /-- An application, with the marks of the symbol and its own. -/
  | node (marked held : Bool) (items : List Nesting)

namespace Nesting

mutual

/-- The expression, where the applications are those of `name`. -/
def expr (name : String) : Nesting → Expr
  | leaf e => e
  | node marked held items => .apply (.symbol name marked) (exprs name items) held

def exprs (name : String) : List Nesting → List Expr
  | [] => []
  | t :: ts => t.expr name :: exprs name ts

end

mutual

/-- What stands at the leaves, from left to right. -/
def leaves : Nesting → List Expr
  | leaf e => [e]
  | node _ _ items => leavesAll items

def leavesAll : List Nesting → List Expr
  | [] => []
  | t :: ts => t.leaves ++ leavesAll ts

end

theorem exprs_eq_map (name : String) (ts : List Nesting) : exprs name ts = ts.map (expr name) := by
  induction ts with
  | nil => rfl
  | cons t ts ih => rw [exprs, ih, List.map_cons]

theorem leavesAll_eq_flatMap (ts : List Nesting) : leavesAll ts = ts.flatMap leaves := by
  induction ts with
  | nil => rfl
  | cons t ts ih => rw [leavesAll, ih, List.flatMap_cons]

end Nesting

namespace Expr

variable {name : String}

/-- What is not a call of the symbol stays in its place. -/
theorem spliced_of_not_isCall {e : Expr} (h : e.isCall name = false) : spliced name e = [e] := by
  cases e with
  | number value | string text | symbol other held => rfl
  | apply head args held => rw [spliced, if_neg (by simpa [isCall] using h)]

theorem splicedAll_of_not_isCall {es : List Expr} (h : ∀ e ∈ es, e.isCall name = false) :
    splicedAll name es = es := by
  induction es with
  | nil => rfl
  | cons e es ih =>
      rw [List.forall_mem_cons] at h
      rw [splicedAll, spliced_of_not_isCall h.1, ih h.2, List.singleton_append]

theorem isCall_apply (marked : Bool) (args : List Expr) (held : Bool) :
    (apply (.symbol name marked) args held).isCall name := by
  simp [isCall, symbol?]

theorem spliced_apply (marked : Bool) (args : List Expr) (held : Bool) :
    spliced name (.apply (.symbol name marked) args held) = splicedAll name args := by
  rw [spliced]
  exact if_pos rfl

end Expr

namespace Nesting

variable {name : String}

mutual

/-- **Splicing lists the leaves.** -/
theorem spliced_expr : ∀ t : Nesting, (∀ e ∈ t.leaves, e.isCall name = false) →
    Expr.spliced name (t.expr name) = t.leaves
  | leaf _, h => Expr.spliced_of_not_isCall (h _ (List.mem_singleton_self _))
  | node _ _ items, h => by rw [expr, Expr.spliced_apply, splicedAll_exprs items h, leaves]

theorem splicedAll_exprs : ∀ ts : List Nesting, (∀ e ∈ leavesAll ts, e.isCall name = false) →
    Expr.splicedAll name (exprs name ts) = leavesAll ts
  | [], _ => rfl
  | t :: ts, h => by
      rw [leavesAll, List.forall_mem_append] at h
      rw [exprs, Expr.splicedAll, spliced_expr t h.1, splicedAll_exprs ts h.2, leavesAll]

end

end Nesting

end Reduct
