import Reduct.Session
import Reduct.Proofs.Evaluation.Limits

/-!
# Sessions and their inputs

A session is started and then given inputs, one after the other: source texts, which it parses
with the operators that are visible by then, and expressions. What is done with an input is made
up of evaluations and elementary computations, like the steps of an evaluation, and so it keeps
what they keep. Between two inputs no evaluation is under way (`Session.depth_after`).
-/

namespace Reduct

/-- What a session is given. -/
inductive Input where
  | text (source : String) (isEchoed : Bool)
  | expr (e : Expr)

namespace Stepwise

theorem operators : Stepwise fun _ => EvalM.operators :=
  .bind (.elementary .scopes) fun _ => .bind (.forM _ (fun _ => .report _) _) fun _ => .pure _

theorem evaluateText (source : String) (isEchoed : Bool) :
    Stepwise fun evaluate => EvalM.evaluateText evaluate source isEchoed := by
  refine .bind operators fun t => ?_
  cases parse t source with
  | error error => exact .pure _
  | ok e =>
      have hevaluate : Stepwise fun evaluate => 
          (return .ok (← evaluate e) : EvalM (Except SyntaxError Expr)) :=
        .bind (.call e) fun value => .pure (Except.ok value)
      exact .ite (.bind (.elementary (.report _)) fun _ => hevaluate) hevaluate

end Stepwise

namespace Session

open Machine (Balanced)

/-- The session after an input. -/
def feed (s : Session) : Input → Session
  | .text source isEchoed => (s.evaluateText source isEchoed).2
  | .expr e => (s.evaluate e).2

/-- The session after several inputs. -/
def feedAll (s : Session) (inputs : List Input) : Session := inputs.foldl feed s

theorem evaluator_feed (s : Session) (input : Input) :
    (s.feed input).evaluator = s.evaluator := by
  cases input <;> rfl

theorem balanced_feed {s : Session} (hs : s.evaluator.IsStepwise) (input : Input) :
    Balanced s.evaluator.limits.recursion s.machine (s.feed input).machine := by
  have hcall : ∀ e, (s.evaluator.evaluate e).Keeps fun m m' =>
      m.depth = s.machine.depth → Balanced s.evaluator.limits.recursion m m' :=
    fun e m _ => Evaluator.balanced_evaluate hs e m
  cases input with
  | text source isEchoed =>
      exact (Stepwise.evaluateText source isEchoed).keeps (Machine.frame_balanced _ _) hcall _ rfl
  | expr e => exact hcall e s.machine rfl

theorem evaluator_feedAll (s : Session) (inputs : List Input) :
    (s.feedAll inputs).evaluator = s.evaluator := by
  induction inputs generalizing s with
  | nil => rfl
  | cons input inputs ih =>
      rw [feedAll, List.foldl_cons]
      exact (ih (s.feed input)).trans (evaluator_feed s input)

theorem balanced_feedAll {s : Session} (hs : s.evaluator.IsStepwise) (inputs : List Input) :
    Balanced s.evaluator.limits.recursion s.machine (s.feedAll inputs).machine := by
  induction inputs generalizing s with
  | nil => exact .refl _
  | cons input inputs ih =>
      rw [feedAll, List.foldl_cons]
      have hinput := balanced_feed hs input
      rw [← evaluator_feed s input] at hs hinput ⊢
      exact hinput.trans (ih hs)

section After

variable (config : Config) (groups : List Group) (attention : Option Level) (inputs : List Input)

/-- A session that was started and has been given inputs. -/
def after (sharing : Nat → Sharing := fun _ => .never) : Session :=
  (start config groups attention sharing).feedAll inputs

variable (sharing : Nat → Sharing)

theorem evaluator_after :
    (after config groups attention inputs sharing).evaluator = ⟨config.limits, .ofGroups groups⟩ :=
  evaluator_feedAll _ inputs

/-- Between two inputs no evaluation is under way. -/
theorem depth_after : (after config groups attention inputs sharing).machine.depth = 0 :=
  (balanced_feedAll (Evaluator.isStepwise_ofGroups config.limits groups) inputs).depth

end After

end Session

end Reduct
