import Reduct.Proofs.Evaluation.Limits

/-!
# The first failure wins

An expression stands in others at the end of a path of places, each the head or an argument of an
application (`Place`). Evaluation comes to it if at each place of the path the application can be
entered, what is evaluated in it before the place has not failed, and the place is one that is
evaluated (`Evaluator.Arrives`). If it fails there, its failure is the value of everything around it,
and nothing else happens after (`Evaluator.evaluate_fillAll`).
-/

namespace Reduct

/-! ### Places -/

/-- Where an expression stands in an application. -/
inductive Place where
  | atHead (args : List Expr)
  | atArg (head : Expr) (before after : List Expr)

namespace Place

/-- The application with the expression at the place. -/
def fill : Place → Expr → Expr
  | .atHead args, e => .app e args
  | .atArg head before after, e => .app head (before ++ e :: after)

/-- The expression at the end of a path, with all that is around it. The outermost place comes
first. -/
def fillAll (path : List Place) (e : Expr) : Expr := path.foldr fill e

end Place

namespace Evaluator

variable {ev : Evaluator} {attributes : Attributes} {index : Nat} {before after : List Expr}
  {e v : Expr} {m m' m'' : Machine}

/-! ### What is evaluated before -/

/-- Of the arguments, the first one at the place `index`, those are evaluated that the attributes
let. None of them fails, and this leads from `m` to `m'`. -/
inductive Proceeds (ev : Evaluator) (attributes : Attributes) :
    Nat → List Expr → Machine → Machine → Prop
  | nil (index : Nat) (m : Machine) : Proceeds ev attributes index [] m m
  | evaluated {index : Nat} {e v : Expr} {es : List Expr} {m m' m'' : Machine} :
      attributes.evaluates index → (ev.evaluate e).run m = (v, m') → v.isAbort = false →
        Proceeds ev attributes (index + 1) es m' m'' → Proceeds ev attributes index (e :: es) m m''
  | kept {index : Nat} {e : Expr} {es : List Expr} {m m' : Machine} :
      attributes.evaluates index = false →
        Proceeds ev attributes (index + 1) es m m' → Proceeds ev attributes index (e :: es) m m'

/-- From the state `m`, the evaluation of the outermost application on the path comes to evaluate
what stands at the end of the path, in the state `m'`, before anything else on the way has failed. -/
inductive Arrives (ev : Evaluator) : List Place → Machine → Machine → Prop
  | here (m : Machine) : Arrives ev [] m m
  | atHead {args : List Expr} {path : List Place} {m m' : Machine} :
      m.depth < ev.limits.recursion → Arrives ev path m.descend m' →
        Arrives ev (.atHead args :: path) m m'
  | atArg {head v : Expr} {before after : List Expr} {path : List Place}
      {m m₁ m₂ m' : Machine} :
      m.depth < ev.limits.recursion →
      (ev.evaluate head).run m.descend = (v, m₁) → v.isAbort = false →
      Proceeds ev (attributesOf m₁.scopes v) 0 before m₁ m₂ →
      (attributesOf m₁.scopes v).evaluates before.length → Arrives ev path m₂ m' →
        Arrives ev (.atArg head before after :: path) m m'

theorem depth_eq_of_run (hev : ev.IsStepwise) (h : (ev.evaluate e).run m = (v, m')) :
    m'.depth = m.depth := by
  have hdepth := (balanced_evaluate hev e m).depth
  rwa [h] at hdepth

theorem Proceeds.depth_eq (hev : ev.IsStepwise) (h : ev.Proceeds attributes index before m m') :
    m'.depth = m.depth := by
  induction h with
  | nil => rfl
  | evaluated _ hrun _ _ ih => exact ih.trans (depth_eq_of_run hev hrun)
  | kept _ _ ih => exact ih

/-! ### The failure -/

/-- The first argument that fails ends the evaluation of the arguments. -/
theorem Proceeds.evaluateArgs_run (h : ev.Proceeds attributes index before m m')
    (hplace : attributes.evaluates (index + before.length))
    (hrun : (ev.evaluate e).run m' = (v, m'')) (hfailed : v.isAbort) :
    (evaluateArgs ev.evaluate attributes index (before ++ e :: after)).run m =
      (.error v, m'') := by
  induction h with
  | nil index m =>
      rw [List.length_nil, Nat.add_zero] at hplace
      rw [List.nil_append, evaluateArgs_cons, if_pos hplace, EvalM.run_bind, hrun, if_pos hfailed]
      rfl
  | evaluated heval hrun' hok _ ih =>
      rw [List.length_cons, Nat.add_comm _ 1, ← Nat.add_assoc] at hplace
      rw [List.cons_append, evaluateArgs_cons, if_pos heval, EvalM.run_bind, hrun',
        if_neg (by simp [hok]), EvalM.run_bind, ih hplace hrun]
      rfl
  | kept heval _ ih =>
      rw [List.length_cons, Nat.add_comm _ 1, ← Nat.add_assoc] at hplace
      rw [List.cons_append, evaluateArgs_cons, if_neg (by simp [heval]), EvalM.run_bind,
        ih hplace hrun]
      rfl

/-- An evaluation whose first step fails ends with the failure. -/
theorem evaluate_run_of_reduce (hev : ev.IsStepwise) (hheld : e.isHeld = false)
    (hdepth : m.depth < ev.limits.recursion) (hfailed : v.isAbort)
    (hreduce : (ev.reduce ev.evaluate e).run m.descend = (.plain v, m')) :
    (ev.evaluate e).run m = (v, m'.ascend) := by
  rw [evaluate_run_of_not_goesOn hev hheld hdepth, hreduce]
  · rfl
  · rw [goesOn, hreduce]
    exact Reduced.isActive_of_isAbort hfailed

/-- **The first failure wins, unwrapped, through any path.** If evaluation comes to the expression at
the end of the path and this fails, the value of the whole is the failure itself. The state is the one
right after that evaluation, but for the levels that are left: nothing behind the expression has been
evaluated, and no rule, attribute or operation of an application around it has done anything. -/
theorem evaluate_fillAll (limits : Limits) (groups : List Group) (path : List Place) (e : Expr)
    (m m' : Machine) :
    let ev : Evaluator := ⟨limits, .ofGroups groups⟩
    let value := ((ev.evaluate e).run m').1
    let after := ((ev.evaluate e).run m').2
    ev.Arrives path m m' → value.isAbort →
      (ev.evaluate (Place.fillAll path e)).run m = (value, { after with depth := m.depth }) := by
  intro ev value after harrives hfailed
  have hev : ev.IsStepwise := isStepwise_ofGroups limits groups
  induction harrives with
  | here m =>
      have hdepth : after.depth = m.depth := depth_eq_of_run hev rfl
      rw [← hdepth]
      rfl
  | @atHead args path m m' hdepth _ ih =>
      exact evaluate_run_of_reduce hev rfl hdepth hfailed (reduce_run_of_head (ih hfailed) hfailed)
  | @atArg head v before behind path m m₁ m₂ m' hdepth hhead hok hbefore hplace _ ih =>
      have hlevel : m₂.depth = m.depth + 1 :=
        (hbefore.depth_eq hev).trans (depth_eq_of_run hev hhead)
      have hinner := ih hfailed
      rw [hlevel] at hinner
      exact evaluate_run_of_reduce hev rfl hdepth hfailed <| reduce_run_of_error hhead hok <|
        hbefore.evaluateArgs_run (by simpa using hplace) hinner hfailed

/-- Before the failure, attributes are set that the evaluation under way does not use any more, and an
argument that would fail is held. Behind it, nothing is assigned. -/
theorem evaluate_fillAll_first :
    let ev : Evaluator := ⟨⟨8, 8⟩, .ofGroups []⟩
    let m : Machine := { scopes := Scopes.setAttributes {} "g" [.sym "HoldFirst"] }
    let assign (value : String) : Expr := .call "Set" [.sym "a", .sym value]
    let path : List Place :=
      [.atArg (.sym "f") [.call "SetAttrs" [.sym "f", .sym "HoldAll"]] [assign "b"],
        .atArg (.sym "g") [.call "Clear" []] [], .atHead [assign "c"]]
    let e : Expr := .call "Hold" []
    let result := (ev.evaluate (Place.fillAll path e)).run m
    (Place.fillAll path e).render =
      "f[SetAttrs[f, HoldAll], g[Clear[], Hold[][Set[a, c]]], Set[a, b]]" ∧
    ∃ m', ev.Arrives path m m' ∧ ((ev.evaluate e).run m').1.isAbort ∧
      result = (((ev.evaluate e).run m').1, { ((ev.evaluate e).run m').2 with depth := 0 }) ∧
      result.1.render = "Abort[Hold[], \"Insufficient arguments number\"]" ∧
      (Attributes.ofSymbol result.2.scopes "f").holdAll ∧
      (result.2.scopes.resolve? (.sym "a")).isNone := by
  intro ev m assign path e result
  have harrives : ∃ m', ev.Arrives path m m' ∧ ((ev.evaluate e).run m').1.isAbort := by
    refine ⟨_, .atArg (by decide) (Prod.eta _).symm ?_
      (.evaluated ?_ (Prod.eta _).symm ?_ (.nil _ _)) ?_ <|
      .atArg (by decide +kernel) (Prod.eta _).symm ?_ (.kept ?_ (.nil _ _)) ?_ <|
      .atHead (by decide +kernel) (.here _), ?_⟩
    all_goals decide +kernel
  obtain ⟨m', hm', hfailed⟩ := harrives
  exact ⟨by decide +kernel, m', hm', hfailed, evaluate_fillAll ⟨8, 8⟩ [] path e m m' hm' hfailed,
    by decide +kernel, by decide +kernel, by decide +kernel⟩

end Evaluator

end Reduct
