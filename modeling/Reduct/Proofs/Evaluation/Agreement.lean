import Reduct.Proofs.Evaluation.Limits

/-!
# States that evaluation cannot tell apart

Of the state, an evaluation reads the definitions, the depth, the last name drawn, and what the
rewritings to come are told of shared nodes. What it writes besides (the record of steps, the
events, the gauges) it never reads. So two evaluations of one expression from states that agree on
the four give the same value, and states that agree again (`Evaluator.respects_evaluate`). The depth
matters only for the levels it leaves; two evaluations with as many levels need not start at the
same one (`Evaluator.respects_evaluateWithin_inStep`). Nor does it matter what has been recorded of
the steps so far, and for what input (`Evaluator.Passes.of_agree`).
-/

namespace Reduct

namespace Machine

/-- The states have the same definitions, and the same names have been drawn. -/
structure Alike (m m' : Machine) : Prop where
  scopes : m.scopes = m'.scopes
  lastFresh : m.lastFresh = m'.lastFresh

namespace Alike

variable {m m' m'' : Machine}

theorem refl (m : Machine) : Alike m m := ⟨rfl, rfl⟩

theorem trans (h : Alike m m') (h' : Alike m' m'') : Alike m m'' :=
  ⟨h.scopes.trans h'.scopes, h.lastFresh.trans h'.lastFresh⟩

end Alike

/-- The states are alike, and the rewritings to come are told the same. -/
structure InStep (m m' : Machine) : Prop where
  scopes : m.scopes = m'.scopes
  lastFresh : m.lastFresh = m'.lastFresh
  answers : m.answers = m'.answers

/-- No computation of an evaluation looks at anything else in the state, but for the check of the
depth. -/
theorem coupling_inStep : Coupling InStep where
  elementary {_ x} hx := by
    intro m m' h
    cases hx with
    | scopes => exact ⟨h.scopes, h⟩
    | write w => exact ⟨rfl, congrArg w.run h.scopes, h.lastFresh, h.answers⟩
    | report event =>
        obtain ⟨events, hm⟩ := EvalM.run_report event m
        obtain ⟨events', hm'⟩ := EvalM.run_report event m'
        rw [hm, hm']
        exact ⟨rfl, h.scopes, h.lastFresh, h.answers⟩
    | drawFresh =>
        have hnext := congrArg (· + 1) h.lastFresh
        exact ⟨hnext, h.scopes, hnext, h.answers⟩
    | noteRenaming | setTracing | cutShort => exact ⟨rfl, h.scopes, h.lastFresh, h.answers⟩
    | rewriting rewrite counts =>
        rw [EvalM.run_rewriting, EvalM.run_rewriting, h.answers]
        refine ⟨rfl, h.scopes, h.lastFresh, ?_⟩
        rw [EvalM.answers_add, EvalM.answers_add, h.answers]
    | recordStep before after =>
        obtain ⟨steps, events, hm⟩ := EvalM.run_recordStep before after m
        obtain ⟨steps', events', hm'⟩ := EvalM.run_recordStep before after m'
        rw [hm, hm']
        exact ⟨rfl, h.scopes, h.lastFresh, h.answers⟩
  openScope locals := by
    intro m m' h
    obtain ⟨events, hm⟩ := EvalM.run_openScope locals m
    obtain ⟨events', hm'⟩ := EvalM.run_openScope locals m'
    rw [hm, hm', h.scopes]
    exact ⟨rfl, rfl, h.lastFresh, h.answers⟩
  closeScope := by
    intro m m' h
    obtain ⟨events, hm⟩ := EvalM.run_closeScope m
    obtain ⟨events', hm'⟩ := EvalM.run_closeScope m'
    rw [hm, hm', h.scopes]
    exact ⟨rfl, rfl, h.lastFresh, h.answers⟩

/-- The states are in step and at the same depth. -/
structure Agree (m m' : Machine) : Prop where
  scopes : m.scopes = m'.scopes
  depth : m.depth = m'.depth
  lastFresh : m.lastFresh = m'.lastFresh
  answers : m.answers = m'.answers

namespace Agree

variable {m m' m'' : Machine}

theorem inStep (h : Agree m m') : InStep m m' := ⟨h.scopes, h.lastFresh, h.answers⟩

theorem refl (m : Machine) : Agree m m := ⟨rfl, rfl, rfl, rfl⟩

theorem symm (h : Agree m m') : Agree m' m :=
  ⟨h.scopes.symm, h.depth.symm, h.lastFresh.symm, h.answers.symm⟩

theorem trans (h : Agree m m') (h' : Agree m' m'') : Agree m m'' :=
  ⟨h.scopes.trans h'.scopes, h.depth.trans h'.depth, h.lastFresh.trans h'.lastFresh,
    h.answers.trans h'.answers⟩

theorem descend (h : Agree m m') : Agree m.descend m'.descend :=
  ⟨h.scopes, congrArg (· + 1) h.depth, h.lastFresh, h.answers⟩

theorem ascend (h : Agree m m') : Agree m.ascend m'.ascend :=
  ⟨h.scopes, congrArg (· - 1) h.depth, h.lastFresh, h.answers⟩

end Agree

/-- What leaves depths alone and respects that states are in step, respects that they agree. -/
theorem respects_agree {α : Type} {x : EvalM α} (hx : x.Respects InStep x)
    (hdepth : ∀ m, (x.run m).2.depth = m.depth) : x.Respects Agree x := by
  intro m m' h
  obtain ⟨hvalue, hstep⟩ := hx m m' h.inStep
  exact ⟨hvalue, hstep.scopes, by rw [hdepth, hdepth, h.depth], hstep.lastFresh, hstep.answers⟩

/-- No computation of an evaluation looks at anything else in the state. -/
theorem coupling_agree : Coupling Agree where
  elementary {_ x} hx := respects_agree (coupling_inStep.elementary hx) fun m =>
    have hbalanced : Balanced 0 m (x.run m).2 := .elementary hx m
    hbalanced.depth
  openScope locals := respects_agree (coupling_inStep.openScope locals) fun m => by
    obtain ⟨events, h⟩ := EvalM.run_openScope locals m
    rw [h]
  closeScope := respects_agree coupling_inStep.closeScope fun m => by
    obtain ⟨events, h⟩ := EvalM.run_closeScope m
    rw [h]

end Machine

namespace Evaluator

open Machine (Agree)

variable {ev : Evaluator} {m' : Machine}

/-- With so many levels left, an evaluation looks at definitions, the names drawn and what the
rewritings are told. -/
theorem respects_evaluateWithin_inStep (hev : ev.IsStepwise) (levels : Nat) (e : Expr) :
    (ev.evaluateWithin levels e).Respects Machine.InStep (ev.evaluateWithin levels e) :=
  respects_evaluateWithin Machine.coupling_inStep (fun h => ⟨h.scopes, h.lastFresh, h.answers⟩)
    (fun h => ⟨h.scopes, h.lastFresh, h.answers⟩) hev levels e

/-- **Evaluation looks at definitions, depth, the names drawn and what the rewritings are told, and
at nothing else.** -/
theorem respects_evaluate (hev : ev.IsStepwise) (e : Expr) :
    (ev.evaluate e).Respects Agree (ev.evaluate e) :=
  respects_evaluate_of_coupling Machine.coupling_agree Agree.descend Agree.ascend
    Agree.depth hev e

/-! ### Steps from states that agree -/

theorem reduce_of_agree (hev : ev.IsStepwise) {p : Expr × Machine} (h : Agree p.2 m') :
    ((ev.reduce ev.evaluate p.1).run p.2).1 = ((ev.reduce ev.evaluate p.1).run m').1 ∧
      Agree ((ev.reduce ev.evaluate p.1).run p.2).2 ((ev.reduce ev.evaluate p.1).run m').2 :=
  (stepwise_reduce hev p.1).respects Machine.coupling_agree (respects_evaluate hev) p.2 m' h

theorem goesOn_of_agree (hev : ev.IsStepwise) {p : Expr × Machine} (h : Agree p.2 m') :
    goesOn (ev.reduce ev.evaluate) (p.1, m') = goesOn (ev.reduce ev.evaluate) p := by
  rw [goesOn, goesOn, (reduce_of_agree hev h).1]

/-- What is recorded of a step makes no difference. -/
theorem agree_advance (reduce : Expr → EvalM Reduced) (input e : Expr) (m : Machine) :
    Agree ((reduce e).run m).2 ((advance reduce input e).run m).2 := by
  rw [advance_eq, EvalM.run_bind]
  split
  · obtain ⟨steps, events, hrun⟩ := EvalM.run_recordStep e ((reduce e).run m).1.expr
      ((reduce e).run m).2
    rw [EvalM.run_bind, hrun]
    exact ⟨rfl, rfl, rfl, rfl⟩
  · exact .refl _

/-- Steps for different inputs, from states that agree, lead to the same. -/
theorem Passes.of_agree (hev : ev.IsStepwise) {input : Expr} (input' : Expr) {n : Nat}
    {p q : Expr × Machine} (h : Passes (ev.reduce ev.evaluate) input n p q)
    (hagree : Agree p.2 m') :
    ∃ m'', Passes (ev.reduce ev.evaluate) input' n (p.1, m') (q.1, m'') ∧ Agree q.2 m'' := by
  induction h generalizing m' with
  | refl p => exact ⟨m', .refl _, hagree⟩
  | @step n p q hgoes _ ih =>
      obtain ⟨hvalue, hstate⟩ := reduce_of_agree hev hagree
      have hnext : (stride (ev.reduce ev.evaluate) input p).1 =
          (stride (ev.reduce ev.evaluate) input' (p.1, m')).1 := by
        rw [stride, stride, advance_run_fst, advance_run_fst, hvalue]
      obtain ⟨m'', hpasses, hagree'⟩ := ih <| (agree_advance _ input p.1 p.2).symm.trans <|
        hstate.trans (agree_advance _ input' p.1 m')
      refine ⟨m'', .step ?_ ?_, hagree'⟩
      · rw [goesOn_of_agree hev hagree]
        exact hgoes
      · rw [hnext] at hpasses
        exact hpasses

end Evaluator

end Reduct
