import Reduct.Proofs.Evaluation.Limits

/-!
# The record of steps

The record is written and never read. From states that differ in the record and its switch alone,
evaluation does the same, down to the events it reports (`Machine.coupling_apartFromRecord`).

An evaluation at depth `d` records its own steps at depth `d + 1`, and what it calls for in between
records deeper ones (`Evaluator.records_evaluate`). A step records nothing itself
(`Evaluator.silent_reduce`), so the own entries are those of settling. While the switch is on there
is one for each step that settling goes on from, and they lead from the expression to where the
last step starts (`Evaluator.records_passes`). That the switch is on throughout is said by the
gauge `Machine.silenced`, which rises whenever it is turned off.
-/

namespace Reduct

open EvalM (Effect Elementary)

/-! ### What the record cannot change -/

namespace Machine

/-- The states differ at most in the record of steps and its switch. -/
def ApartFromRecord (m m' : Machine) : Prop :=
  ∃ isTracing steps, m' = { m with isTracing, steps }

theorem respects_report (event : Event) :
    (EvalM.report event).Respects ApartFromRecord (EvalM.report event) := by
  rintro m _ ⟨isTracing, steps, rfl⟩
  refine ⟨rfl, isTracing, steps, ?_⟩
  rw [EvalM.report, EvalM.run_modify, EvalM.run_modify]
  cases h : m.attention with
  | none => simp only [h]
  | some level =>
      dsimp only
      split <;> simp only [h]

theorem respects_scopes : EvalM.scopes.Respects ApartFromRecord EvalM.scopes := by
  rintro m _ ⟨isTracing, steps, rfl⟩
  exact ⟨rfl, isTracing, steps, rfl⟩

theorem respects_modifyScopes (change : Scopes → Scopes) :
    (EvalM.modifyScopes change).Respects ApartFromRecord (EvalM.modifyScopes change) := by
  rintro m _ ⟨isTracing, steps, rfl⟩
  exact ⟨rfl, isTracing, steps, rfl⟩

theorem respects_recordStep (before after : Expr) :
    (EvalM.recordStep before after).Respects ApartFromRecord
      (EvalM.recordStep before after) := by
  intro m m' h
  obtain ⟨-, isTracing, steps, hreport⟩ := respects_report (.step m.depth before after) m m' h
  obtain ⟨isTracing', steps', rfl⟩ := h
  rw [EvalM.recordStep_run, EvalM.recordStep_run]
  refine ⟨rfl, ?_⟩
  dsimp only
  rw [hreport]
  exact ⟨isTracing, _, rfl⟩

/-- No computation of an evaluation looks at the record. -/
theorem coupling_apartFromRecord : Coupling ApartFromRecord where
  elementary {_ x} hx := by
    cases hx with
    | scopes => exact respects_scopes
    | write w => exact respects_modifyScopes w.run
    | report event => exact respects_report event
    | recordStep before after => exact respects_recordStep before after
    | drawFresh | noteRenaming args number value | setTracing on | cutShort e limit =>
        rintro m _ ⟨isTracing, steps, rfl⟩
        exact ⟨rfl, _, _, rfl⟩
    | rewriting rewrite counts =>
        rintro m _ ⟨isTracing, steps, rfl⟩
        rw [EvalM.run_rewriting, EvalM.run_rewriting]
        exact ⟨rfl, _, _, rfl⟩
  openScope locals :=
    respects_scopes.bind fun _ => (respects_modifyScopes _).bind fun _ => respects_report _
  closeScope := by
    refine respects_scopes.bind fun s => ?_
    cases s.pop? with
    | none => exact .pure _
    | some s =>
        exact (respects_modifyScopes _).bind fun _ => (respects_report _).bind fun _ => .pure _

end Machine

theorem Evaluator.respects_evaluate_apartFromRecord {ev : Evaluator} (hev : ev.IsStepwise)
    (e : Expr) : (ev.evaluate e).Respects Machine.ApartFromRecord (ev.evaluate e) := by
  refine respects_evaluate_of_coupling Machine.coupling_apartFromRecord ?_ ?_ ?_ hev e
  all_goals rintro m _ ⟨isTracing, steps, rfl⟩
  · exact ⟨isTracing, steps, rfl⟩
  · exact ⟨isTracing, steps, rfl⟩
  · rfl

/-! ### The steps of one depth -/

namespace Machine

/-- Steps were recorded from `m` to `m'`, all at the depth or deeper. Those at the depth are `own`,
the first one first. -/
def Records (depth : Nat) (own : List Step) (m m' : Machine) : Prop :=
  ∃ added, m'.steps = added ++ m.steps ∧ (∀ step ∈ added, depth ≤ step.depth) ∧
    (added.filter fun step => decide (step.depth = depth)).reverse = own

namespace Records

variable {depth : Nat} {own own' : List Step} {m m' m'' : Machine}

theorem of_eq (h : m'.steps = m.steps) : Records depth [] m m' := ⟨[], h, by simp, rfl⟩

theorem of_cons {step : Step} (hdepth : step.depth = depth) (h : m'.steps = step :: m.steps) :
    Records depth [step] m m' := ⟨[step], h, by simp [hdepth], by simp [hdepth]⟩

theorem trans (h : Records depth own m m') (h' : Records depth own' m' m'') :
    Records depth (own ++ own') m m'' := by
  obtain ⟨added, hsteps, hdepth, rfl⟩ := h
  obtain ⟨added', hsteps', hdepth', rfl⟩ := h'
  refine ⟨added' ++ added, by rw [hsteps', hsteps, List.append_assoc], fun step hstep => ?_, ?_⟩
  · exact (List.mem_append.mp hstep).elim (hdepth' step) (hdepth step)
  · rw [List.filter_append, List.reverse_append]

/-- What is recorded deeper is not recorded at the depth. -/
theorem deeper (h : Records (depth + 1) own m m') : Records depth [] m m' := by
  obtain ⟨added, hsteps, hdepth, -⟩ := h
  refine ⟨added, hsteps, fun step hstep => Nat.le_of_succ_le (hdepth step hstep), ?_⟩
  rw [List.reverse_eq_nil_iff, List.filter_eq_nil_iff]
  intro step hstep heq
  have := hdepth step hstep
  simp only [decide_eq_true_eq] at heq
  omega

end Records

/-- Settling at a depth records steps at this depth or deeper. -/
theorem frame_records (depth : Nat) :
    Frame fun m m' => m.depth = depth → m'.depth = depth ∧ ∃ own, Records depth own m m' where
  refl m hdepth := ⟨hdepth, [], .of_eq rfl⟩
  trans h h' hdepth := by
    obtain ⟨hdepth, own, hrecords⟩ := h hdepth
    obtain ⟨hdepth, own', hrecords'⟩ := h' hdepth
    exact ⟨hdepth, own ++ own', hrecords.trans hrecords'⟩
  elementary {_ x} hx := by
    intro m hdepth
    cases hx with
    | scopes | write w | drawFresh | noteRenaming args number value | setTracing on
    | cutShort e limit => exact ⟨hdepth, [], .of_eq rfl⟩
    | rewriting rewrite counts =>
        rw [EvalM.run_rewriting]
        exact ⟨hdepth, [], .of_eq rfl⟩
    | report event =>
        obtain ⟨events, h⟩ := EvalM.run_report event m
        exact h ▸ ⟨hdepth, [], .of_eq rfl⟩
    | recordStep before after =>
        obtain ⟨events, h⟩ := EvalM.run_report (.step m.depth before after) m
        rw [EvalM.recordStep_run, h]
        refine ⟨hdepth, ?_⟩
        subst hdepth
        cases htracing : m.isTracing with
        | true => exact ⟨[⟨m.depth, before, after⟩], .of_cons rfl rfl⟩
        | false => exact ⟨[], .of_eq rfl⟩
  inScope {_} locals {x} hx := by
    intro m hdepth
    obtain ⟨events, events', hrun⟩ := EvalM.run_inScope locals x m
    rw [hrun]
    exact hx _ hdepth

/-- What is silent at a depth records deeper steps only. -/
theorem frame_silent (depth : Nat) :
    FrameOf Effect fun m m' => m.depth = depth → m'.depth = depth ∧ Records depth [] m m' where
  refl m hdepth := ⟨hdepth, .of_eq rfl⟩
  trans h h' hdepth := ⟨(h' (h hdepth).1).1, (h hdepth).2.trans (h' (h hdepth).1).2⟩
  elementary {_ x} hx := by
    intro m hdepth
    cases hx with
    | scopes | write w | drawFresh | noteRenaming args number value | setTracing on =>
        exact ⟨hdepth, .of_eq rfl⟩
    | rewriting rewrite counts =>
        rw [EvalM.run_rewriting]
        exact ⟨hdepth, .of_eq rfl⟩
    | report event =>
        obtain ⟨events, h⟩ := EvalM.run_report event m
        exact h ▸ ⟨hdepth, .of_eq rfl⟩
  inScope {_} locals {x} hx := by
    intro m hdepth
    obtain ⟨events, events', hrun⟩ := EvalM.run_inScope locals x m
    rw [hrun]
    exact hx _ hdepth

/-! ### The switch -/

/-- If the record was not turned off from `m` to `m'`, it is on after if it was on before. -/
def StaysOn (m m' : Machine) : Prop :=
  m.silenced ≤ m'.silenced ∧ (m'.silenced = m.silenced → m.isTracing → m'.isTracing)

theorem StaysOn.trans {m m' m'' : Machine} (h : StaysOn m m') (h' : StaysOn m' m'') :
    StaysOn m m'' := by
  refine ⟨Nat.le_trans h.1 h'.1, fun heq hon => ?_⟩
  have hmiddle : m'.silenced = m.silenced := Nat.le_antisymm (heq ▸ h'.1) h.1
  exact h'.2 (heq.trans hmiddle.symm) (h.2 hmiddle hon)

theorem frame_staysOn : Frame StaysOn where
  refl m := ⟨Nat.le_refl _, fun _ => id⟩
  trans := StaysOn.trans
  elementary {_ x} hx := by
    intro m
    cases hx with
    | scopes | write w | drawFresh | noteRenaming args number value | cutShort e limit =>
        exact ⟨Nat.le_refl _, fun _ => id⟩
    | rewriting rewrite counts =>
        rw [EvalM.run_rewriting]
        exact ⟨Nat.le_refl _, fun _ => id⟩
    | setTracing on =>
        cases on with
        | true => exact ⟨Nat.le_refl _, fun _ _ => rfl⟩
        | false => exact ⟨Nat.le_succ _, fun heq => absurd heq (Nat.succ_ne_self _)⟩
    | report event =>
        obtain ⟨events, h⟩ := EvalM.run_report event m
        exact h ▸ ⟨Nat.le_refl _, fun _ => id⟩
    | recordStep before after =>
        obtain ⟨steps, events, h⟩ := EvalM.run_recordStep before after m
        exact h ▸ ⟨Nat.le_refl _, fun _ => id⟩
  inScope {_} locals {x} hx := by
    intro m
    obtain ⟨events, events', hrun⟩ := EvalM.run_inScope locals x m
    rw [hrun]
    exact hx { m with scopes := m.scopes.push locals, events }

end Machine

/-- The steps follow on each other, from one expression to another. -/
inductive Step.Chain : Expr → List Step → Expr → Prop
  | nil (e : Expr) : Chain e [] e
  | cons {step : Step} {steps : List Step} {last : Expr} :
      Chain step.after steps last → Chain step.before (step :: steps) last

theorem Step.Chain.concat {e last : Expr} {steps : List Step} {step : Step}
    (h : Chain e steps last) (hlast : step.before = last) : Chain e (steps ++ [step]) step.after := by
  induction h with
  | nil e => exact hlast ▸ .cons (.nil _)
  | cons _ ih => exact .cons (ih hlast)

namespace Evaluator

open Machine (Records StaysOn)

variable {ev : Evaluator}

/-! ### What an evaluation records -/

theorem records_evaluateWithin (hev : ev.IsStepwise) (levels : Nat) (e : Expr) (m : Machine) :
    ((ev.evaluateWithin levels e).run m).2.depth = m.depth ∧
      ∃ own, Records (m.depth + 1) own m ((ev.evaluateWithin levels e).run m).2 := by
  induction levels generalizing e m with
  | zero =>
      rw [evaluateWithin_zero]
      split <;> exact ⟨rfl, [], .of_eq rfl⟩
  | succ levels ih =>
      rw [evaluateWithin_succ]
      split
      · exact ⟨rfl, [], .of_eq rfl⟩
      · have hcall : ∀ e, (ev.evaluateWithin levels e).Keeps fun m' m'' =>
            m'.depth = m.depth + 1 → m''.depth = m.depth + 1 ∧
              ∃ own, Records (m.depth + 1) own m' m'' := by
          intro e m' hdepth
          obtain ⟨hdepth', own, hrecords⟩ := ih e m'
          exact ⟨hdepth'.trans hdepth, [], (hdepth ▸ hrecords).deeper⟩
        obtain ⟨hdepth, own, hrecords⟩ := (stepwise_settle hev e ev.limits.iterations e).keeps
          (Machine.frame_records (m.depth + 1)) hcall m.descend rfl
        exact ⟨congrArg (· - 1) hdepth, own, hrecords⟩

/-- **What an evaluation records is deeper than where it is called.** -/
theorem records_evaluate (hev : ev.IsStepwise) (e : Expr) (m : Machine) :
    ((ev.evaluate e).run m).2.depth = m.depth ∧
      ∃ own, Records (m.depth + 1) own m ((ev.evaluate e).run m).2 :=
  records_evaluateWithin hev (ev.limits.recursion - m.depth) e m

/-- A step records deeper steps only. -/
theorem records_reduce (hev : ev.IsStepwise) (e : Expr) (m : Machine) :
    ((ev.reduce ev.evaluate e).run m).2.depth = m.depth ∧
      Records m.depth [] m ((ev.reduce ev.evaluate e).run m).2 := by
  refine (silent_reduce hev e).keeps (Machine.frame_silent m.depth) (fun e m' hdepth => ?_) m rfl
  obtain ⟨hdepth', own, hrecords⟩ := records_evaluate hev e m'
  exact ⟨hdepth'.trans hdepth, (hdepth ▸ hrecords).deeper⟩

theorem staysOn_evaluate (hev : ev.IsStepwise) (e : Expr) : (ev.evaluate e).Keeps StaysOn :=
  keeps_evaluate Machine.frame_staysOn id hev e

theorem staysOn_stride (hev : ev.IsStepwise) (input : Expr) (p : Expr × Machine) :
    StaysOn p.2 (stride (ev.reduce ev.evaluate) input p).2 :=
  (stepwise_advance hev input p.1).keeps Machine.frame_staysOn (staysOn_evaluate hev) p.2

theorem staysOn_passes (hev : ev.IsStepwise) {input : Expr} {n : Nat} {p q : Expr × Machine}
    (h : Passes (ev.reduce ev.evaluate) input n p q) : StaysOn p.2 q.2 := by
  induction h with
  | refl p => exact Machine.frame_staysOn.refl p.2
  | step _ _ ih => exact (staysOn_stride hev input _).trans ih

theorem staysOn_lastStep (hev : ev.IsStepwise) (input : Expr) (q : Expr × Machine) :
    StaysOn q.2 (lastStep (ev.reduce ev.evaluate) input q).2 := by
  have hstride := staysOn_stride hev input q
  rw [lastStep]
  split
  · exact hstride.trans (Machine.frame_staysOn.elementary (.cutShort _ _) _)
  · exact hstride

/-! ### The own entries -/

section Own

variable {input : Expr} (hev : ev.IsStepwise) (hinput : input.application?.isSome)
include hev hinput

/-- A step that settling goes on from is recorded while the switch is on. -/
theorem records_stride {p : Expr × Machine} (hgoes : goesOn (ev.reduce ev.evaluate) p)
    (hon : p.2.isTracing)
    (hswitch : (stride (ev.reduce ev.evaluate) input p).2.silenced = p.2.silenced) :
    Records p.2.depth [⟨p.2.depth, p.1, (stride (ev.reduce ev.evaluate) input p).1⟩] p.2
      (stride (ev.reduce ev.evaluate) input p).2 := by
  generalize hr : (ev.reduce ev.evaluate p.1).run p.2 = r
  obtain ⟨hdepth, hrecords⟩ := records_reduce hev p.1 p.2
  have hstays : StaysOn p.2 ((ev.reduce ev.evaluate p.1).run p.2).2 :=
    (stepwise_reduce hev p.1).keeps Machine.frame_staysOn (staysOn_evaluate hev) p.2
  have hadvance : (advance (ev.reduce ev.evaluate) input p.1).run p.2 =
      (r.1, ((EvalM.recordStep p.1 r.1.expr).run r.2).2) := by
    rw [goesOn, hr] at hgoes
    rw [advance_eq, EvalM.run_bind, hr, hgoes, hinput]
    rfl
  rw [hr] at hdepth hrecords hstays
  obtain ⟨events, hreport⟩ := EvalM.run_report (.step r.2.depth p.1 r.1.expr) r.2
  rw [stride, hadvance, EvalM.recordStep_run, hreport] at hswitch ⊢
  refine hrecords.trans (.of_cons rfl ?_)
  rw [if_pos (hstays.2 hswitch hon), hdepth]

/-- **The own entries of an evaluation follow on each other,** one for each step that settling goes
on from, as long as the switch is on. -/
theorem records_passes {n : Nat} {p q : Expr × Machine}
    (h : Passes (ev.reduce ev.evaluate) input n p q) (hon : p.2.isTracing)
    (hswitch : q.2.silenced = p.2.silenced) :
    q.2.depth = p.2.depth ∧ ∃ own, own.length = n ∧ Step.Chain p.1 own q.1 ∧
      Records p.2.depth own p.2 q.2 := by
  refine ⟨(balanced_passes hev h).depth, ?_⟩
  induction h with
  | refl p => exact ⟨[], rfl, .nil p.1, .of_eq rfl⟩
  | @step n p q hgoes hpasses ih =>
      have hfirst := staysOn_stride hev input p
      have hrest := staysOn_passes hev hpasses
      have hmiddle : (stride (ev.reduce ev.evaluate) input p).2.silenced = p.2.silenced :=
        Nat.le_antisymm (hswitch ▸ hrest.1) hfirst.1
      have hdepth : (stride (ev.reduce ev.evaluate) input p).2.depth = p.2.depth :=
        (balanced_passes hev (.step hgoes (.refl _))).depth
      obtain ⟨own, hlength, hchain, hrecords⟩ :=
        ih (hfirst.2 hmiddle hon) (hswitch.trans hmiddle.symm)
      rw [hdepth] at hrecords
      let first : Step := ⟨p.2.depth, p.1, (stride (ev.reduce ev.evaluate) input p).1⟩
      have hfirst : Records p.2.depth [first] p.2 (stride (ev.reduce ev.evaluate) input p).2 :=
        records_stride hev hinput hgoes hon hmiddle
      exact ⟨first :: own, congrArg (· + 1) hlength, @Step.Chain.cons first own q.1 hchain,
        hfirst.trans hrecords⟩

/-- The last step allowed is recorded if the evaluation was to go on from it. -/
theorem records_lastStep {e : Expr} {q : Expr × Machine} (hon : q.2.isTracing)
    (hswitch : (lastStep (ev.reduce ev.evaluate) input q).2.silenced = q.2.silenced)
    {own : List Step} (hchain : Step.Chain e own q.1) :
    ∃ own' last, own'.length ≤ 1 ∧ Step.Chain e (own ++ own') last ∧
      Records q.2.depth own' q.2 (lastStep (ev.reduce ev.evaluate) input q).2 ∧
      let value := (lastStep (ev.reduce ev.evaluate) input q).1
      (value.isAbort ∨ value.isHeld ∨ value.same last) := by
  by_cases hgoes : goesOn (ev.reduce ev.evaluate) q
  · rw [lastStep, if_pos hgoes] at hswitch ⊢
    let final : Step := ⟨q.2.depth, q.1, (stride (ev.reduce ev.evaluate) input q).1⟩
    exact ⟨[final], final.after, Nat.le_refl 1, hchain.concat rfl,
      records_stride hev hinput hgoes hon hswitch, .inl (Expr.isAbort_abort _ _)⟩
  · have hstop : goesOn (ev.reduce ev.evaluate) q = false := by simpa using hgoes
    rw [lastStep, if_neg hgoes, stride_of_not_goesOn hstop]
    refine ⟨[], q.1, Nat.zero_le 1, by rwa [List.append_nil], (records_reduce hev q.1 q.2).2, ?_⟩
    exact Reduced.of_isActive_eq_false hstop

end Own

/-- What an evaluation records at its own depth, with the switch on throughout. -/
theorem records_own (hev : ev.IsStepwise) {e : Expr} {m : Machine}
    (he : e.application?.isSome) (hon : m.isTracing)
    (hswitch : ((ev.evaluate e).run m).2.silenced = m.silenced) :
    ∃ own last, Records (m.depth + 1) own m ((ev.evaluate e).run m).2 ∧ Step.Chain e own last ∧
      own.length ≤ ev.limits.iterations + 1 ∧
      let value := ((ev.evaluate e).run m).1
      (value.isAbort ∨ value.isHeld ∨ value.same last) := by
  cases hheld : e.isHeld with
  | true =>
      rw [evaluate_run_of_isHeld hheld]
      exact ⟨[], e, .of_eq rfl, .nil e, Nat.zero_le _, .inr (.inl hheld)⟩
  | false =>
      by_cases hlevel : m.depth < ev.limits.recursion
      · obtain ⟨n, hn, q, hpasses, -, hrun⟩ := exists_passes hev hheld hlevel
        rw [hrun] at hswitch ⊢
        have hpassed := staysOn_passes hev hpasses
        have hended := staysOn_lastStep hev e q
        have hmiddle : q.2.silenced = m.silenced := Nat.le_antisymm (hswitch ▸ hended.1) hpassed.1
        obtain ⟨hdepth, own, hlength, hchain, hrecords⟩ :=
          records_passes hev he hpasses hon hmiddle
        obtain ⟨own', last, hlength', hchain', hrecords', hvalue⟩ := records_lastStep hev he
          (hpassed.2 hmiddle hon) (hswitch.trans hmiddle.symm) hchain
        rw [hdepth] at hrecords'
        refine ⟨own ++ own', last, hrecords.trans hrecords', hchain', ?_, hvalue⟩
        rw [List.length_append]
        omega
      · rw [evaluate_run_of_no_level hheld (Nat.not_lt.mp hlevel)]
        exact ⟨[], e, .of_eq rfl, .nil e, Nat.zero_le _, .inl (Expr.isAbort_abort e _)⟩

/-- **The record of steps only observes.** From a state that differs in the record and its switch
alone an evaluation comes to the same value, and to a state that again differs in them alone. And
if the switch is on throughout the evaluation of an application, the entries it adds are all deeper
than where it is called, and those of the next depth lead in a chain from the application to the
value, unless that has failed or is held. -/
theorem tracing_observes (limits : Limits) (groups : List Group) (e : Expr) (m : Machine) :
    let ev : Evaluator := ⟨limits, .ofGroups groups⟩
    let value := ((ev.evaluate e).run m).1
    let after := ((ev.evaluate e).run m).2
    (∀ m', m.ApartFromRecord m' →
      ((ev.evaluate e).run m').1 = value ∧ after.ApartFromRecord ((ev.evaluate e).run m').2) ∧
    (e.application?.isSome → m.isTracing → after.silenced = m.silenced →
      ∃ own last, Records (m.depth + 1) own m after ∧ Step.Chain e own last ∧
        own.length ≤ limits.iterations + 1 ∧
        (value.isAbort ∨ value.isHeld ∨ value.same last)) := by
  intro ev value after
  have hev : ev.IsStepwise := isStepwise_ofGroups limits groups
  refine ⟨fun m' h => ?_, records_own hev⟩
  obtain ⟨hvalue, hafter⟩ := respects_evaluate_apartFromRecord hev e m m' h
  exact ⟨hvalue.symm, hafter⟩

/-- A function applied to what another one gives: the entries of the inner call, which are deeper,
stand before those of the outer one. -/
theorem tracing_observes_call :
    let ev : Evaluator := ⟨⟨8, 4⟩, .ofGroups []⟩
    let inner : Expr := .app (.call "Func" [.sym "y", .sym "y"]) [.sym "a"]
    let e : Expr := .app (.call "Func" [.sym "x", .call "g" [.sym "x"]]) [inner]
    let m : Machine := { scopes := .initial, isTracing := true }
    let m' : Machine := { m with isTracing := false, steps := [⟨1, .null, .null⟩] }
    let after := ((ev.evaluate e).run m).2
    m.ApartFromRecord m' ∧ after.silenced = m.silenced ∧
      after.steps.map Step.depth = [1, 2] ∧
      ((ev.evaluate e).run m').1 = ((ev.evaluate e).run m).1 ∧
      ∃ own last, Records 1 own m after ∧ Step.Chain e own last ∧ own.length ≤ 9 ∧
        (((ev.evaluate e).run m).1.isAbort ∨ ((ev.evaluate e).run m).1.isHeld ∨
          ((ev.evaluate e).run m).1.same last) := by
  intro ev inner e m m' after
  have hapart : m.ApartFromRecord m' := ⟨false, [⟨1, .null, .null⟩], rfl⟩
  have hswitch : after.silenced = m.silenced := by decide +kernel
  obtain ⟨hruns, hrecord⟩ := tracing_observes ⟨8, 4⟩ [] e m
  exact ⟨hapart, hswitch, by decide +kernel, (hruns m' hapart).1, hrecord rfl rfl hswitch⟩

end Evaluator

end Reduct
