import Reduct.Proofs.Evaluation.Limits

/-!
# The iteration limit is exact

Taking one step after the other, whether or not settling goes on, gives a sequence of expressions
and states (`Evaluator.trail`). Settling follows it while it goes on (`Evaluator.passes_iff`), and an
evaluation ends with the first step after which it does not, if the steps before that one are no more
than the limit; otherwise it fails one step past the limit (`Evaluator.iteration_limit_exact`). So a
chain of rewrites leads to its last term exactly if it is not longer than the limit.
-/

namespace Reduct.Evaluator

section Steps

variable (reduce : Expr → EvalM Reduced) (input : Expr)

/-- Where so many steps lead, whether or not settling goes on after each. -/
def trail (p : Expr × Machine) (n : Nat) : Expr × Machine := (stride reduce input)^[n] p

/-- Each of the terms is rewritten by a rule or a function into the next one, which has not failed
and is not held, and the last one is a normal form. The steps are taken in the states of a trail. -/
structure RewriteChain (trail : Nat → Expr × Machine) (terms : Nat → Expr) (n : Nat) : Prop where
  first : (trail 0).1 = terms 0
  fires : ∀ k < n, ((reduce (terms k)).run (trail k).2).1 = .fired (terms (k + 1))
  not_isAbort : ∀ k < n, (terms (k + 1)).isAbort = false
  not_isHeld : ∀ k < n, (terms (k + 1)).isHeld = false
  last : ((reduce (terms n)).run (trail n).2).1 = .plain (terms n)

variable {reduce input} {n : Nat} {p q : Expr × Machine}

theorem trail_succ (p : Expr × Machine) (n : Nat) :
    trail reduce input p (n + 1) = stride reduce input (trail reduce input p n) :=
  Function.iterate_succ_apply' ..

theorem fst_trail_succ (p : Expr × Machine) (n : Nat) :
    (trail reduce input p (n + 1)).1 =
      ((reduce (trail reduce input p n).1).run (trail reduce input p n).2).1.expr := by
  rw [trail_succ, stride, advance_run_fst]

/-- To pass so many steps is to take them, with settling going on after each. -/
theorem passes_iff : Passes reduce input n p q ↔
    q = trail reduce input p n ∧ ∀ k < n, goesOn reduce (trail reduce input p k) := by
  constructor
  · intro h
    induction h with
    | refl p => exact ⟨rfl, nofun⟩
    | step hgoes _ ih =>
        refine ⟨ih.1, fun k hk => ?_⟩
        cases k with
        | zero => exact hgoes
        | succ k => exact ih.2 k (Nat.lt_of_succ_lt_succ hk)
  · rintro ⟨rfl, hgoes⟩
    induction n generalizing p with
    | zero => exact .refl p
    | succ n ih =>
        exact .step (hgoes 0 (Nat.succ_pos n)) (ih fun k hk => hgoes (k + 1) (Nat.succ_lt_succ hk))

theorem not_isAbort_of_goesOn (h : goesOn reduce p) : (stride reduce input p).1.isAbort = false := by
  rw [stride, advance_run_fst]
  by_contra hfailed
  exact Bool.eq_false_iff.mp (Reduced.isActive_of_isAbort (by simpa using hfailed)) h

namespace RewriteChain

variable {terms : Nat → Expr} (h : RewriteChain reduce (trail reduce input p) terms n)
include h

/-- The trail passes through the terms. -/
theorem fst_trail {k : Nat} (hk : k ≤ n) : (trail reduce input p k).1 = terms k := by
  induction k with
  | zero => exact h.first
  | succ k ih => rw [fst_trail_succ, ih (Nat.le_of_succ_le hk), h.fires k hk]; rfl

/-- Settling goes on from each term but the last. -/
theorem goesOn_trail {k : Nat} (hk : k < n) : goesOn reduce (trail reduce input p k) := by
  rw [goesOn, h.fst_trail (Nat.le_of_lt hk), h.fires k hk]
  simp [Reduced.isActive, Reduced.fired, h.not_isAbort k hk, h.not_isHeld k hk]

theorem not_goesOn_last : ¬ goesOn reduce (trail reduce input p n) := by
  rw [goesOn, h.fst_trail (Nat.le_refl n), h.last]
  exact Bool.eq_false_iff.mp (Reduced.isActive_plain_self _)

end RewriteChain

end Steps

section Run

variable {ev : Evaluator} {e : Expr} {m : Machine} (hev : ev.IsStepwise) (hheld : e.isHeld = false)
  (hdepth : m.depth < ev.limits.recursion)
include hev hheld hdepth

/-- An evaluation gives what its first step gives after which settling does not go on, if no more
steps than the limit come before. -/
theorem evaluate_run_of_trail {n : Nat} (hn : n ≤ ev.limits.iterations) :
    let reached := trail (ev.reduce ev.evaluate) e (e, m.descend)
    (∀ k < n, goesOn (ev.reduce ev.evaluate) (reached k)) →
      ¬ goesOn (ev.reduce ev.evaluate) (reached n) →
      (ev.evaluate e).run m = ((reached (n + 1)).1, (reached (n + 1)).2.ascend) := by
  intro reached hgoes hlast
  have hsettle := settle_run_of_passes (passes_iff.mpr ⟨rfl, hgoes⟩) hn (by simpa using hlast)
  rw [evaluate_run hev hheld hdepth, run_deeper, hsettle, ← trail_succ]

/-- It fails with what is reached one step past the limit, if settling goes on until then. -/
theorem evaluate_run_of_trail_limit :
    let reached := trail (ev.reduce ev.evaluate) e (e, m.descend)
    let last := reached (ev.limits.iterations + 1)
    (∀ k ≤ ev.limits.iterations, goesOn (ev.reduce ev.evaluate) (reached k)) →
      (ev.evaluate e).run m = (.call "Abort" [last.1, .string "Iterations limit hit"],
        { last.2 with cutShort := last.2.cutShort + 1 }.ascend) := by
  intro reached last hgoes
  have hpasses := passes_iff.mpr ⟨rfl, fun k hk => hgoes k (Nat.le_of_lt_succ hk)⟩
  have hfailed : last.1.isAbort = false := by
    rw [show last = _ from trail_succ _ _]
    exact not_isAbort_of_goesOn (hgoes _ (Nat.le_refl _))
  have habort : last.1.abort Failure.iterationLimit.message =
      .call "Abort" [last.1, .string "Iterations limit hit"] := by
    rw [Expr.abort, hfailed]
    rfl
  rw [evaluate_run hev hheld hdepth, run_deeper, settle_run_of_limit hpasses, ← habort]
  rfl

/-- The last term of a chain of rewrites is the value exactly if the chain is not longer than the
limit. -/
theorem RewriteChain.value_eq_iff {n : Nat} {terms : Nat → Expr}
    (h : RewriteChain (ev.reduce ev.evaluate)
      (trail (ev.reduce ev.evaluate) e (e, m.descend)) terms n) :
    ((ev.evaluate e).run m).1 = terms n ↔ n ≤ ev.limits.iterations := by
  constructor
  · -- Past the limit the value has failed, and no term after the first one has.
    intro hvalue
    by_contra hn
    rw [evaluate_run_of_trail_limit hev hheld hdepth fun k hk => h.goesOn_trail (by omega)] at hvalue
    obtain ⟨k, rfl⟩ := Nat.exists_eq_succ_of_ne_zero (Nat.ne_zero_of_lt (Nat.not_le.mp hn))
    have hfailed := h.not_isAbort k (Nat.lt_succ_self k)
    rw [← hvalue] at hfailed
    exact Bool.noConfusion hfailed
  · intro hn
    rw [evaluate_run_of_trail hev hheld hdepth hn (fun k hk => h.goesOn_trail hk) h.not_goesOn_last,
      fst_trail_succ, h.fst_trail (Nat.le_refl n), h.last]
    rfl

end Run

/-- **The iteration limit is exact.** Let an expression that is not held be admitted by the check of
the depth, and take one step after the other from it. If the first step after which settling does not
go on comes after no more steps than the limit, the evaluation gives what that step gives. If settling
goes on after so many steps and one more, it fails with the expression reached then, and has taken
just these steps. In particular a chain of rewrites to a normal form gives its last term exactly if
it has no more rewrites than the limit. -/
theorem iteration_limit_exact (limits : Limits) (groups : List Group) (e : Expr) (m : Machine) :
    let ev : Evaluator := ⟨limits, .ofGroups groups⟩
    let reduce := ev.reduce ev.evaluate
    let reached := trail reduce e (e, m.descend)
    let result := (ev.evaluate e).run m
    e.isHeld = false → m.depth < limits.recursion →
    (∀ k, (reached (k + 1)).1 = ((reduce (reached k).1).run (reached k).2).1.expr) ∧
    (∀ n ≤ limits.iterations, (∀ k < n, goesOn reduce (reached k)) → ¬ goesOn reduce (reached n) →
      result = ((reached (n + 1)).1, (reached (n + 1)).2.ascend)) ∧
    ((∀ k ≤ limits.iterations, goesOn reduce (reached k)) →
      let last := reached (limits.iterations + 1)
      result = (.call "Abort" [last.1, .string "Iterations limit hit"],
        { last.2 with cutShort := last.2.cutShort + 1 }.ascend)) ∧
    ∀ n terms, RewriteChain reduce reached terms n →
      (result.1 = terms n ↔ n ≤ limits.iterations) := by
  intro ev reduce reached result hheld hdepth
  have hev : ev.IsStepwise := isStepwise_ofGroups limits groups
  exact ⟨fun k => fst_trail_succ _ k,
    fun n hn hgoes hlast => evaluate_run_of_trail hev hheld hdepth hn hgoes hlast,
    fun hgoes => evaluate_run_of_trail_limit hev hheld hdepth hgoes,
    fun n terms hchain => hchain.value_eq_iff hev hheld hdepth⟩

/-- Two rewrites, with a limit that allows them and with one that does not. -/
theorem iteration_limit_exact_chain :
    let ev (limit : Nat) : Evaluator := ⟨⟨limit, 4⟩, .ofGroups []⟩
    let rules : List Scopes.Write :=
      [.setRule ⟨.sym "x", .sym "y"⟩, .setRule ⟨.sym "y", .sym "z"⟩]
    let m : Machine := { scopes := Scopes.Write.runAll rules .initial }
    let terms : Nat → Expr := fun k => .sym (if k = 0 then "x" else if k = 1 then "y" else "z")
    let reached (limit : Nat) :=
      trail ((ev limit).reduce (ev limit).evaluate) (.sym "x") (.sym "x", m.descend)
    let result (limit : Nat) := ((ev limit).evaluate (.sym "x")).run m
    (Expr.sym "x").isHeld = false ∧ m.depth < 4 ∧
    (∀ limit, RewriteChain ((ev limit).reduce (ev limit).evaluate) (reached limit) terms 2) ∧
    (result 2).1 = .sym "z" ∧
    (result 1).1 = .call "Abort" [.sym "z", .string "Iterations limit hit"] := by
  intro ev rules m terms reached result
  have hchain (limit : Nat) :
      RewriteChain ((ev limit).reduce (ev limit).evaluate) (reached limit) terms 2 := by
    refine ⟨rfl, ?_, ?_, ?_, ?_⟩
    · intro k hk
      match k, hk with
      | 0, _ => with_unfolding_all rfl
      | 1, _ => with_unfolding_all rfl
    · intro k _
      rfl
    · intro k _
      rfl
    · with_unfolding_all rfl
  obtain ⟨-, -, -, hvalue⟩ := iteration_limit_exact ⟨2, 4⟩ [] (.sym "x") m rfl (by decide)
  obtain ⟨-, -, hcut, -⟩ := iteration_limit_exact ⟨1, 4⟩ [] (.sym "x") m rfl (by decide)
  refine ⟨rfl, by decide, hchain, (hvalue 2 terms (hchain 2)).mpr (Nat.le_refl 2), ?_⟩
  rw [congrArg Prod.fst (hcut fun k hk => (hchain 1).goesOn_trail (Nat.lt_succ_of_le hk))]
  exact congrArg (fun e => Expr.call "Abort" [e, .string "Iterations limit hit"])
    ((hchain 1).fst_trail (Nat.le_refl 2))

end Reduct.Evaluator
