import Mathlib.Logic.Function.Iterate
import Reduct.Proofs.Evaluation.Stepwise

/-!
# The limits of evaluation

Evaluation is defined by the levels and the steps that are left. Here it is shown to be what an
evaluation does that looks at the depth counter each time (`Evaluator.enter`), and that this
recursion ends: unfolded as often as there are levels left, it depends on nothing below
(`Evaluator.iterate_enter`). The steps of an evaluation are counted along `Evaluator.stride`.

That the depth an evaluation finds is the one it was called at has its reason in the invariant:
whatever a step does, scopes and levels are left as they were entered (`Machine.Balanced`). The
gauge `Machine.deepest` rises whenever a level is entered, so a bound on it is one on the depth at
every moment.
-/

namespace Reduct

/-! ### The scopes around an evaluation -/

namespace Scopes

variable {s : Scopes}

/-- Which of the open scopes let writes pass, the innermost first. -/
def transparency (s : Scopes) : List Bool := s.frames.map Scope.isTransparent

theorem length_transparency (s : Scopes) : s.transparency.length = s.depth := List.length_map _

theorem transparency_write (name : String) (change : Version → Version) (frames : List Scope) :
    (write name change frames).map Scope.isTransparent = frames.map Scope.isTransparent := by
  induction frames with
  | nil => rfl
  | cons scope around ih =>
      cases hget : scope.versions.get? name with
      | some version => rw [write_of_bound hget, List.map_cons, List.map_cons]
      | none =>
          by_cases hthrough : scope.isTransparent ∧ around ≠ []
          · rw [write_through hget hthrough.1 hthrough.2, List.map_cons, List.map_cons, ih]
          · rw [write_new hget hthrough, List.map_cons, List.map_cons]

/-- Writes open and close no scopes. -/
theorem transparency_run (w : Write) (s : Scopes) :
    (w.run s).transparency = s.transparency := by
  cases howner : w.owner? with
  | none => rw [Write.run_of_no_owner howner]
  | some name =>
      rw [Write.run_of_owner howner]
      exact transparency_write name w.change s.frames

theorem transparency_push (s : Scopes) (locals : List String) :
    (s.push locals).transparency = (!locals.isEmpty) :: s.transparency := rfl

theorem transparency_pop? {b : Bool} {others : List Bool} (h : s.transparency = b :: others)
    (hne : others ≠ []) : (s.pop?.getD s).transparency = others := by
  obtain ⟨frames⟩ := s
  match frames with
  | [] => simp [transparency] at h
  | [_] => simp_all [transparency]
  | _ :: _ :: _ => exact (List.cons.inj h).2

theorem transparency_eq_nil : s.transparency = [] ↔ s.frames = [] := List.map_eq_nil_iff

end Scopes

/-! ### Levels and scopes are left as they were entered -/

namespace Machine

/-- Levels and scopes are in `m'` what they are in `m`, and in between there were no more levels
than the limit. What rewritings are told of shared nodes is fixed. -/
structure Balanced (limit : Nat) (m m' : Machine) : Prop where
  depth : m'.depth = m.depth
  deepest : m'.deepest ≤ max m.deepest limit
  transparency : m.scopes.frames ≠ [] → m'.scopes.transparency = m.scopes.transparency
  sharing : m'.sharing = m.sharing

namespace Balanced

variable {limit : Nat} {m m' m'' : Machine}

theorem refl (m : Machine) : Balanced limit m m := ⟨rfl, Nat.le_max_left _ _, fun _ => rfl, rfl⟩

theorem frames_ne_nil (h : Balanced limit m m') (hne : m.scopes.frames ≠ []) :
    m'.scopes.frames ≠ [] := by
  rw [Ne, ← Scopes.transparency_eq_nil, h.transparency hne, Scopes.transparency_eq_nil]
  exact hne

theorem trans (h : Balanced limit m m') (h' : Balanced limit m' m'') : Balanced limit m m'' where
  depth := h'.depth.trans h.depth
  deepest := Nat.le_trans h'.deepest (Nat.max_le.mpr ⟨h.deepest, Nat.le_max_right _ _⟩)
  transparency hne := (h'.transparency (h.frames_ne_nil hne)).trans (h.transparency hne)
  sharing := h'.sharing.trans h.sharing

theorem elementary {α : Type} {x : EvalM α} (hx : EvalM.Elementary x) :
    x.Keeps (Balanced limit) := by
  intro m
  cases hx with
  | scopes => exact refl m
  | write w => exact ⟨rfl, Nat.le_max_left _ _, fun _ => Scopes.transparency_run w m.scopes, rfl⟩
  | report event =>
      obtain ⟨events, h⟩ := EvalM.run_report event m
      exact h ▸ ⟨rfl, Nat.le_max_left _ _, fun _ => rfl, rfl⟩
  | drawFresh | noteRenaming args number value | setTracing on | cutShort e limit =>
      exact ⟨rfl, Nat.le_max_left _ _, fun _ => rfl, rfl⟩
  | rewriting rewrite counts =>
      rw [EvalM.run_rewriting]
      exact ⟨rfl, Nat.le_max_left _ _, fun _ => rfl, rfl⟩
  | recordStep before after =>
      obtain ⟨steps, events, h⟩ := EvalM.run_recordStep before after m
      exact h ▸ ⟨rfl, Nat.le_max_left _ _, fun _ => rfl, rfl⟩

/-- A scope that is opened is closed again. -/
theorem inScope {α : Type} {x : EvalM α} {locals : List String}
    (hx : ∀ events, Balanced limit { m with scopes := m.scopes.push locals, events }
      (x.run { m with scopes := m.scopes.push locals, events }).2) :
    Balanced limit m ((EvalM.inScope locals x).run m).2 := by
  obtain ⟨events, events', hrun⟩ := EvalM.run_inScope locals x m
  have hinside := hx events
  rw [hrun]
  refine ⟨hinside.depth, hinside.deepest, fun hne => ?_, hinside.sharing⟩
  have hpushed := hinside.transparency (List.cons_ne_nil _ _)
  exact Scopes.transparency_pop? (hpushed.trans (Scopes.transparency_push _ _))
    (mt Scopes.transparency_eq_nil.mp hne)

end Balanced

/-- Steps at one level keep the balance. -/
theorem frame_balanced (limit depth : Nat) :
    Frame fun m m' => m.depth = depth → Balanced limit m m' where
  refl m _ := .refl m
  trans h h' hdepth := (h hdepth).trans (h' ((h hdepth).depth.trans hdepth))
  elementary hx m _ := Balanced.elementary hx m
  inScope _ _ hx _ hdepth := Balanced.inScope fun _ => hx _ hdepth

end Machine

namespace Evaluator

open Machine (Balanced)

variable {ev : Evaluator}

/-- Evaluation keeps the balance, with as many levels as there are left. -/
theorem balanced_evaluateWithin (hev : ev.IsStepwise) {levels : Nat} {m : Machine} (e : Expr)
    (h : levels ≤ ev.limits.recursion - m.depth) :
    Balanced ev.limits.recursion m ((ev.evaluateWithin levels e).run m).2 := by
  induction levels generalizing e m with
  | zero =>
      rw [evaluateWithin_zero]
      split
      · exact .refl m
      · exact .elementary (.cutShort e _) m
  | succ levels ih =>
      rw [evaluateWithin_succ]
      split
      · exact .refl m
      · have hframe := Machine.frame_balanced ev.limits.recursion (m.depth + 1)
        have hcall : ∀ e, (ev.evaluateWithin levels e).Keeps fun m' m'' =>
            m'.depth = m.depth + 1 → Balanced ev.limits.recursion m' m'' :=
          fun e m' hdepth => ih e (by omega)
        have hbody := (stepwise_settle hev e ev.limits.iterations e).keeps hframe hcall m.descend rfl
        refine ⟨?_, ?_, hbody.transparency, hbody.sharing⟩
        · exact congrArg (· - 1) hbody.depth
        · refine Nat.le_trans hbody.deepest ?_
          have hdescend : m.descend.deepest = max m.deepest (m.depth + 1) := rfl
          omega

/-- **Evaluation keeps the balance.** -/
theorem balanced_evaluate (hev : ev.IsStepwise) (e : Expr) (m : Machine) :
    Balanced ev.limits.recursion m ((ev.evaluate e).run m).2 :=
  balanced_evaluateWithin hev e (Nat.le_refl _)

/-! ### The recursion at run time -/

/-- An evaluation, given what evaluates inside it: the depth that the state counts is checked
before anything else is done. -/
def enter (ev : Evaluator) (evaluate : Expr → EvalM Expr) (e : Expr) : EvalM Expr := do
  if e.isHeld then return e
  if ev.limits.recursion ≤ (← get).depth then EvalM.cutShort e .recursionLimit
  else EvalM.deeper (settle (ev.reduce evaluate) e ev.limits.iterations e)

/-- The states of two runs are the same, and at a given depth. -/
def SameAt (depth : Nat) (m m' : Machine) : Prop := m = m' ∧ m.depth = depth

theorem coupling_sameAt (depth : Nat) : Coupling (SameAt depth) where
  elementary {_ x} hx := by
    rintro m _ ⟨rfl, hdepth⟩
    have hbalanced : Balanced 0 m (x.run m).2 := .elementary hx m
    exact ⟨rfl, rfl, hbalanced.depth.trans hdepth⟩
  openScope locals := by
    rintro m _ ⟨rfl, hdepth⟩
    obtain ⟨events, h⟩ := EvalM.run_openScope locals m
    exact ⟨rfl, rfl, h ▸ hdepth⟩
  closeScope := by
    rintro m _ ⟨rfl, hdepth⟩
    obtain ⟨events, h⟩ := EvalM.run_closeScope m
    exact ⟨rfl, rfl, h ▸ hdepth⟩

theorem run_evaluate (e : Expr) (m : Machine) :
    (ev.evaluate e).run m = (ev.evaluateWithin (ev.limits.recursion - m.depth) e).run m := rfl

theorem run_deeper {α : Type} (body : EvalM α) (m : Machine) :
    (EvalM.deeper body).run m = ((body.run m.descend).1, (body.run m.descend).2.ascend) := rfl

/-- What evaluates inside an evaluation matters only one level deeper. -/
theorem enter_run (hev : ev.IsStepwise) {evaluate : Expr → EvalM Expr} {m : Machine}
    (h : m.depth < ev.limits.recursion → ∀ e m', m'.depth = m.depth + 1 →
      (evaluate e).run m' = (ev.evaluate e).run m') (e : Expr) :
    (ev.enter evaluate e).run m = (ev.evaluate e).run m := by
  rw [run_evaluate]
  cases hheld : e.isHeld with
  | true =>
      cases hlevels : ev.limits.recursion - m.depth <;>
        simp [enter, evaluateWithin_zero, evaluateWithin_succ, hheld]
  | false =>
      cases hlevels : ev.limits.recursion - m.depth with
      | zero =>
          have hdeep : ev.limits.recursion ≤ m.depth := by omega
          simp [enter, evaluateWithin_zero, hheld, hdeep]
      | succ levels =>
          have hdeep : ¬ ev.limits.recursion ≤ m.depth := by omega
          -- One level deeper, the levels left are those that the depth leaves.
          have hcall : ∀ e, (evaluate e).Respects (SameAt (m.depth + 1))
              (ev.evaluateWithin levels e) := by
            rintro e m' _ ⟨rfl, hdepth⟩
            have hlevels' : ev.limits.recursion - m'.depth = levels := by omega
            rw [h (by omega) e m' hdepth, run_evaluate, hlevels']
            have hbalanced := balanced_evaluateWithin hev e (Nat.le_of_eq hlevels'.symm)
            exact ⟨rfl, rfl, hbalanced.depth.trans hdepth⟩
          obtain ⟨hvalue, hstate, -⟩ := (stepwise_settle hev e ev.limits.iterations e).respects
            (coupling_sameAt (m.depth + 1)) hcall m.descend m.descend ⟨rfl, rfl⟩
          have hleft : (ev.enter evaluate e).run m = (EvalM.deeper
              (settle (ev.reduce evaluate) e ev.limits.iterations e)).run m := by
            simp [enter, hheld, hdeep]
          rw [hleft, evaluateWithin_succ, if_neg (by simp [hheld]), run_deeper, run_deeper, hvalue,
            hstate]

/-- **Evaluation does what the recursion with the check at run time says.** -/
theorem enter_evaluate (hev : ev.IsStepwise) : ev.enter ev.evaluate = ev.evaluate :=
  funext fun e => StateT.ext fun _ => enter_run hev (fun _ _ _ _ => rfl) e

/-- **The recursion ends.** Unfolded as often as there are levels left, and once more, it does not
depend on what is to evaluate below. -/
theorem iterate_enter (hev : ev.IsStepwise) (unknown : Expr → EvalM Expr) {n : Nat} {m : Machine}
    (h : ev.limits.recursion - m.depth < n) (e : Expr) :
    (ev.enter^[n] unknown e).run m = (ev.evaluate e).run m := by
  induction n generalizing e m with
  | zero => omega
  | succ n ih =>
      rw [Function.iterate_succ_apply']
      exact enter_run hev (fun hlevels e m' hdepth => ih (by omega) e) e

/-! ### The steps of an evaluation -/

end Evaluator

namespace Reduced

variable {r : Reduced} {e : Expr}

/-- Settling does not go on from what has failed. -/
theorem isActive_of_isAbort (h : r.expr.isAbort) : r.isActive e = false := by
  simp [isActive, h]

/-- A result that settling does not go on from has failed, is held, or equals what the step was
taken from. -/
theorem of_isActive_eq_false (h : r.isActive e = false) :
    r.expr.isAbort ∨ r.expr.isHeld ∨ r.expr.same e := by
  simp only [isActive, Bool.and_eq_false_iff, Bool.or_eq_false_iff, Bool.not_eq_false'] at h
  obtain (⟨-, hsame⟩ | hfailed) | hheld := h
  · exact .inr (.inr hsame)
  · exact .inl hfailed
  · exact .inr (.inl hheld)

end Reduced

namespace Evaluator

variable {ev : Evaluator}

section Steps

variable (reduce : Expr → EvalM Reduced) (input : Expr)

/-- A step of settling: from an expression in a state to the result in the state after it. -/
def stride (p : Expr × Machine) : Expr × Machine :=
  (((advance reduce input p.1).run p.2).1.expr, ((advance reduce input p.1).run p.2).2)

/-- Does settling go on after the step from the expression in the state? -/
def goesOn (p : Expr × Machine) : Bool := ((reduce p.1).run p.2).1.isActive p.1

/-- Settling takes `n` steps from `p` and goes on after each, and this leads to `q`. -/
inductive Passes : Nat → Expr × Machine → Expr × Machine → Prop
  | refl (p : Expr × Machine) : Passes 0 p p
  | step {n : Nat} {p q : Expr × Machine} :
      goesOn reduce p → Passes n (stride reduce input p) q → Passes (n + 1) p q

/-- What the step from `p` makes of an evaluation if it is the last one that is allowed. -/
def lastStep (p : Expr × Machine) : Expr × Machine :=
  let last := stride reduce input p
  if goesOn reduce p then (EvalM.cutShort last.1 .iterationLimit).run last.2 else last

variable {reduce input}

theorem advance_run_fst (e : Expr) (m : Machine) :
    ((advance reduce input e).run m).1 = ((reduce e).run m).1 := by
  rw [advance_eq, EvalM.run_bind]
  split <;> rfl

theorem settle_zero_run (p : Expr × Machine) :
    (settle reduce input 0 p.1).run p.2 = lastStep reduce input p := by
  rw [settle_zero, EvalM.run_bind, advance_run_fst, lastStep, goesOn, stride, advance_run_fst]
  split <;> rfl

theorem settle_succ_run (remaining : Nat) (p : Expr × Machine) :
    (settle reduce input (remaining + 1) p.1).run p.2 =
      if goesOn reduce p then
        (settle reduce input remaining (stride reduce input p).1).run (stride reduce input p).2
      else stride reduce input p := by
  rw [settle_succ, EvalM.run_bind, advance_run_fst, goesOn, stride, advance_run_fst]
  split <;> rfl

/-- A last step is not recorded: it is the step and nothing else. -/
theorem stride_of_not_goesOn {p : Expr × Machine} (h : goesOn reduce p = false) :
    stride reduce input p = (((reduce p.1).run p.2).1.expr, ((reduce p.1).run p.2).2) := by
  have hadvance : (advance reduce input p.1).run p.2 = (reduce p.1).run p.2 := by
    rw [goesOn] at h
    rw [advance_eq, EvalM.run_bind, h]
    rfl
  rw [stride, hadvance]

variable (reduce input) in
/-- **Settling takes at most one step more than are allowed to remain.** Some `n` of them lead on
to a last one. After the last the expression has settled, or all allowed have been taken. -/
theorem settle_run (remaining : Nat) (p : Expr × Machine) :
    ∃ n ≤ remaining, ∃ q, Passes reduce input n p q ∧ (goesOn reduce q → n = remaining) ∧
      (settle reduce input remaining p.1).run p.2 = lastStep reduce input q := by
  induction remaining generalizing p with
  | zero => exact ⟨0, Nat.le_refl 0, p, .refl p, fun _ => rfl, settle_zero_run p⟩
  | succ remaining ih =>
      rw [settle_succ_run]
      by_cases hp : goesOn reduce p
      · obtain ⟨n, hn, q, hpasses, hlast, hrun⟩ := ih (stride reduce input p)
        refine ⟨n + 1, Nat.succ_le_succ hn, q, .step hp hpasses, ?_, ?_⟩
        · exact fun hq => congrArg (· + 1) (hlast hq)
        · rw [if_pos hp, hrun]
      · refine ⟨0, Nat.zero_le _, p, .refl p, fun hp' => absurd hp' hp, ?_⟩
        rw [if_neg hp, lastStep, if_neg hp]

/-- Settling ends with the first step after which it does not go on. -/
theorem settle_run_of_passes {n remaining : Nat} {p q : Expr × Machine}
    (h : Passes reduce input n p q) (hn : n ≤ remaining) (hlast : goesOn reduce q = false) :
    (settle reduce input remaining p.1).run p.2 = stride reduce input q := by
  induction h generalizing remaining with
  | refl p =>
      cases remaining with
      | zero => rw [settle_zero_run, lastStep, hlast]; rfl
      | succ remaining => rw [settle_succ_run, hlast]; rfl
  | step hgoes _ ih =>
      obtain ⟨remaining, rfl⟩ := Nat.exists_eq_add_of_le' (Nat.le_trans (Nat.le_add_left 1 _) hn)
      rw [settle_succ_run, if_pos hgoes]
      exact ih (Nat.le_of_succ_le_succ hn) hlast

/-- Settling is cut short after one step more than are allowed to remain. -/
theorem settle_run_of_limit {remaining : Nat} {p q : Expr × Machine}
    (h : Passes reduce input (remaining + 1) p q) :
    (settle reduce input remaining p.1).run p.2 =
      (EvalM.cutShort q.1 .iterationLimit).run q.2 := by
  induction remaining generalizing p with
  | zero =>
      obtain _ | ⟨hgoes, hrest⟩ := h
      cases hrest
      rw [settle_zero_run, lastStep, if_pos hgoes]
  | succ remaining ih =>
      obtain _ | ⟨hgoes, hrest⟩ := h
      rw [settle_succ_run, if_pos hgoes, ih hrest]

end Steps

theorem evaluate_run_of_isHeld {e : Expr} {m : Machine} (h : e.isHeld) :
    (ev.evaluate e).run m = (e, m) := by
  rw [run_evaluate]
  cases ev.limits.recursion - m.depth
  · rw [evaluateWithin_zero, if_pos h]
    rfl
  · rw [evaluateWithin_succ, if_pos h]
    rfl

/-- Without a level left, what is not held fails. -/
theorem evaluate_run_of_no_level {e : Expr} {m : Machine} (hheld : e.isHeld = false)
    (h : ev.limits.recursion ≤ m.depth) :
    (ev.evaluate e).run m =
      (e.abort Failure.recursionLimit.message, { m with cutShort := m.cutShort + 1 }) := by
  rw [run_evaluate, Nat.sub_eq_zero_of_le h, evaluateWithin_zero, hheld]
  rfl

/-- An evaluation that may begin settles its expression one level deeper. -/
theorem evaluate_run (hev : ev.IsStepwise) {e : Expr} {m : Machine} (hheld : e.isHeld = false)
    (hdepth : m.depth < ev.limits.recursion) :
    (ev.evaluate e).run m =
      (EvalM.deeper (settle (ev.reduce ev.evaluate) e ev.limits.iterations e)).run m := by
  rw [← enter_evaluate hev]
  simp [enter, hheld, Nat.not_le.mpr hdepth, enter_evaluate hev]

/-- An evaluation whose first step is the last one comes to the result of this step. -/
theorem evaluate_run_of_not_goesOn (hev : ev.IsStepwise) {e : Expr} {m : Machine}
    (hheld : e.isHeld = false) (hdepth : m.depth < ev.limits.recursion)
    (h : goesOn (ev.reduce ev.evaluate) (e, m.descend) = false) :
    (ev.evaluate e).run m = (((ev.reduce ev.evaluate e).run m.descend).1.expr,
      ((ev.reduce ev.evaluate e).run m.descend).2.ascend) := by
  have hpasses : Passes (ev.reduce ev.evaluate) e 0 (e, m.descend) (e, m.descend) := .refl _
  have hsettle := settle_run_of_passes hpasses (Nat.zero_le ev.limits.iterations) h
  rw [evaluate_run hev hheld hdepth, run_deeper, hsettle, stride_of_not_goesOn h]

/-- A step keeps the balance. -/
theorem balanced_reduce (hev : ev.IsStepwise) (e : Expr) (m : Machine) :
    Machine.Balanced ev.limits.recursion m ((ev.reduce ev.evaluate e).run m).2 :=
  (stepwise_reduce hev e).keeps (Machine.frame_balanced _ _)
    (fun e m _ => balanced_evaluate hev e m) m rfl

theorem balanced_passes (hev : ev.IsStepwise) {input : Expr} {n : Nat} {p q : Expr × Machine}
    (h : Passes (ev.reduce ev.evaluate) input n p q) :
    Machine.Balanced ev.limits.recursion p.2 q.2 := by
  induction h with
  | refl p => exact .refl _
  | step _ _ ih =>
      refine .trans ?_ ih
      exact (stepwise_advance hev input _).keeps (Machine.frame_balanced _ _)
        (fun e m _ => balanced_evaluate hev e m) _ rfl

/-- An evaluation that may begin takes at most one step more than the iteration limit. -/
theorem exists_passes (hev : ev.IsStepwise) {e : Expr} {m : Machine} (hheld : e.isHeld = false)
    (hdepth : m.depth < ev.limits.recursion) :
    ∃ n ≤ ev.limits.iterations, ∃ q,
      Passes (ev.reduce ev.evaluate) e n (e, m.descend) q ∧
      (goesOn (ev.reduce ev.evaluate) q → n = ev.limits.iterations) ∧
      (ev.evaluate e).run m =
        ((lastStep (ev.reduce ev.evaluate) e q).1,
          (lastStep (ev.reduce ev.evaluate) e q).2.ascend) := by
  obtain ⟨n, hn, q, hpasses, hlast, hrun⟩ :=
    settle_run (ev.reduce ev.evaluate) e ev.limits.iterations (e, m.descend)
  refine ⟨n, hn, q, hpasses, hlast, ?_⟩
  rw [evaluate_run hev hheld hdepth, run_deeper, hrun]

/-- **Evaluation stays within its limits and leaves levels and scopes balanced.** It is the
recursion that checks the depth at run time, and that recursion ends. There are never more levels
than the recursion limit, and at each level at most one step more than the iteration limit. After
an evaluation depth and scopes are as before it. -/
theorem evaluate_within_limits (limits : Limits) (groups : List Group) :
    let ev : Evaluator := ⟨limits, .ofGroups groups⟩
    ev.enter ev.evaluate = ev.evaluate ∧
    (∀ (unknown : Expr → EvalM Expr) (n : Nat) (e : Expr) (m : Machine),
      ev.limits.recursion - m.depth < n →
        (ev.enter^[n] unknown e).run m = (ev.evaluate e).run m) ∧
    ∀ (e : Expr) (m : Machine),
      let m' := ((ev.evaluate e).run m).2
      m'.deepest ≤ max m.deepest ev.limits.recursion ∧
      (e.isHeld = false → m.depth < ev.limits.recursion →
        ∃ n ≤ ev.limits.iterations, ∃ q,
          Passes (ev.reduce ev.evaluate) e n (e, m.descend) q ∧
          (goesOn (ev.reduce ev.evaluate) q → n = ev.limits.iterations) ∧
          (ev.evaluate e).run m =
            ((lastStep (ev.reduce ev.evaluate) e q).1,
              (lastStep (ev.reduce ev.evaluate) e q).2.ascend)) ∧
      m'.depth = m.depth ∧
      (m.scopes.frames ≠ [] →
        m'.scopes.depth = m.scopes.depth ∧ m'.scopes.transparency = m.scopes.transparency) := by
  intro ev
  have hev : ev.IsStepwise := isStepwise_ofGroups limits groups
  refine ⟨enter_evaluate hev, fun unknown _ e _ h => iterate_enter hev unknown h e, fun e m => ?_⟩
  have hbalanced := balanced_evaluate hev e m
  refine ⟨hbalanced.deepest, exists_passes hev, hbalanced.depth, fun hne => ?_⟩
  have htransparency := hbalanced.transparency hne
  refine ⟨?_, htransparency⟩
  rw [← Scopes.length_transparency, htransparency, Scopes.length_transparency]

/-- A scope is closed although its body fails. -/
theorem evaluate_within_limits_block :
    let ev : Evaluator := ⟨⟨8, 4⟩, .ofGroups [.list]⟩
    let e : Expr := .call "Block" [.list [.sym "v"], .call "Append" [.sym "v", .sym "w"]]
    let m : Machine := { scopes := .initial }
    ((ev.evaluate e).run m).1.isAbort ∧
    ev.enter^[5] (fun e => pure e) e m = ev.evaluate e m ∧
    (∃ n ≤ 8, ∃ q, Passes (ev.reduce ev.evaluate) e n (e, m.descend) q) ∧
    ((ev.evaluate e).run m).2.scopes.transparency = m.scopes.transparency := by
  intro ev e m
  obtain ⟨-, hends, hruns⟩ := evaluate_within_limits ⟨8, 4⟩ [.list]
  obtain ⟨-, hpasses, -, hscopes⟩ := hruns e m
  obtain ⟨n, hn, q, hq, -⟩ := hpasses rfl (by decide)
  exact ⟨by decide +kernel, hends _ 5 e m (by decide), ⟨n, hn, q, hq⟩, (hscopes (by decide)).2⟩

end Evaluator

end Reduct
