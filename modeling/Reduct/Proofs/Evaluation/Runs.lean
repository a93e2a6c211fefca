import Reduct.Machine
import Reduct.Proofs.Scope.Writes

/-!
# Runs of the computations on the state

What each elementary computation does with the state that it runs in. Writes to the definitions go
through one computation, `EvalM.write`, and so do those that declare or withdraw a rule.
-/

namespace Reduct

/-- What the rewritings from here on are told of the nodes they put in, one after the other. -/
def Machine.answers (m : Machine) (n : Nat) : Sharing := m.sharing (m.rewritings + n)

namespace EvalM

variable {α β : Type}

theorem run_bind (x : EvalM α) (f : α → EvalM β) (m : Machine) :
    (x >>= f).run m = (f (x.run m).1).run (x.run m).2 := rfl

theorem run_modify (f : Machine → Machine) (m : Machine) :
    (modify f : EvalM Unit).run m = ((), f m) := rfl

theorem run_scopes (m : Machine) : scopes.run m = (m.scopes, m) := rfl

theorem run_modifyScopes (change : Scopes → Scopes) (m : Machine) :
    (modifyScopes change).run m = ((), { m with scopes := change m.scopes }) := rfl

/-- A report changes the events and nothing else. -/
theorem run_report (event : Event) (m : Machine) :
    ∃ events, (report event).run m = ((), { m with events }) := by
  rw [report, run_modify]
  split
  · exact ⟨m.events, rfl⟩
  · split
    · exact ⟨event :: m.events, rfl⟩
    · exact ⟨m.events, rfl⟩

/-- A scope is opened with an event. -/
theorem run_openScope (locals : List String) (m : Machine) :
    ∃ events,
      (openScope locals).run m = ((), { m with scopes := m.scopes.push locals, events }) :=
  run_report _ { m with scopes := m.scopes.push locals }

/-- The innermost scope is closed with an event, if it is not the root. -/
theorem run_closeScope (m : Machine) :
    ∃ events, closeScope.run m =
      (m.scopes.pop?.isSome, { m with scopes := m.scopes.pop?.getD m.scopes, events }) := by
  rw [closeScope, run_bind, run_scopes]
  cases m.scopes.pop? with
  | none => exact ⟨m.events, rfl⟩
  | some s =>
      obtain ⟨events, h⟩ := run_report (.scopeClosed s.depth) { m with scopes := s }
      refine ⟨events, ?_⟩
      dsimp only
      rw [run_bind, run_modifyScopes, run_bind, h]
      rfl

/-- What is done in a scope of its own happens inside the scope, and the scope is closed after. -/
theorem run_inScope (locals : List String) (x : EvalM α) (m : Machine) :
    ∃ events events',
      let inside := x.run { m with scopes := m.scopes.push locals, events }
      (inScope locals x).run m = (inside.1,
        { inside.2 with
          scopes := inside.2.scopes.pop?.getD inside.2.scopes, events := events' }) := by
  obtain ⟨events, hopen⟩ := run_openScope locals m
  obtain ⟨events', hclose⟩ :=
    run_closeScope (x.run { m with scopes := m.scopes.push locals, events }).2
  refine ⟨events, events', ?_⟩
  dsimp only
  rw [inScope, run_bind, hopen, run_bind, run_bind, hclose]
  rfl

/-- A step is reported in any case, and recorded if the switch is on. -/
theorem recordStep_run (before after : Expr) (m : Machine) :
    (recordStep before after).run m =
      ((), { ((report (.step m.depth before after)).run m).2 with
        steps := if m.isTracing then ⟨m.depth, before, after⟩ :: m.steps else m.steps }) := by
  obtain ⟨events, h⟩ := run_report (.step m.depth before after) m
  change StateT.run (if m.isTracing then _ else _ : EvalM Unit)
    ((report (.step m.depth before after)).run m).2 = _
  rw [h]
  cases m.isTracing <;> rfl

/-- A step that is recorded changes the record and the events. -/
theorem run_recordStep (before after : Expr) (m : Machine) :
    ∃ steps events, (recordStep before after).run m = ((), { m with steps, events }) := by
  obtain ⟨events, h⟩ := run_report (.step m.depth before after) m
  rw [recordStep_run, h]
  exact ⟨_, events, rfl⟩

/-- A rewriting is told the next answers, and if it counts, they are used up. -/
theorem run_rewriting (rewrite : Sharing → α) (counts : α → Bool) (m : Machine) :
    (rewriting rewrite counts).run m = (rewrite (m.answers 0),
      { m with
        rewritings := m.rewritings + if counts (rewrite (m.answers 0)) then 1 else 0 }) := by
  have hanswers : m.sharing m.rewritings = m.answers 0 := rfl
  change StateT.run (if counts (rewrite (m.sharing m.rewritings)) then _ else _ : EvalM α) m = _
  rw [hanswers]
  cases counts (rewrite (m.answers 0)) <;> rfl

/-- Where no rule applies, nothing is rewritten. -/
theorem run_resolve?_of_none {e : Expr} {m : Machine} (h : ∀ s, m.scopes.resolve? e s = none) :
    (resolve? e).run m = (none, m) := by
  rw [resolve?, run_bind, run_scopes, run_rewriting, h]
  rfl

/-- The answers that are left after a rewriting are the further ones. -/
theorem answers_add (m : Machine) (used : Nat) :
    { m with rewritings := m.rewritings + used }.answers = fun n => m.answers (used + n) :=
  funext fun n => congrArg m.sharing (Nat.add_assoc m.rewritings used n)

/-- A write to the definitions. -/
def write (w : Scopes.Write) : EvalM Unit := modifyScopes w.run

theorem setRule_eq (rule : Rule) :
    setRule rule = do
      match (← scopes).setRule? rule with
      | none => return .error .unsupportedTarget
      | some _ =>
        report (.ruleDefined rule)
        write (.setRule rule)
        return .ok () := by
  refine StateT.ext fun m => ?_
  rw [setRule, run_bind, run_bind, run_scopes]
  cases h : m.scopes.setRule? rule with
  | none => rfl
  | some s =>
      obtain ⟨events, hevents⟩ := run_report (.ruleDefined rule) m
      dsimp only
      rw [run_bind, run_bind, run_bind, run_bind, hevents, write, run_modifyScopes,
        run_modifyScopes, Scopes.Write.run, h]
      rfl

theorem clearRule_eq (pattern : Expr) :
    clearRule pattern = do
      match (← scopes).clearRule? pattern with
      | none => return .error .unsupportedTarget
      | some (had, _) =>
        write (.clearRule pattern)
        return .ok had := by
  refine StateT.ext fun m => ?_
  rw [clearRule, run_bind, run_bind, run_scopes]
  cases h : m.scopes.clearRule? pattern with
  | none => rfl
  | some found =>
      dsimp only
      rw [run_bind, run_bind, write, run_modifyScopes, run_modifyScopes, Scopes.Write.run, h]
      rfl

end EvalM

end Reduct
