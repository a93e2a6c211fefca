import Reduct.Proofs.Evaluation.HeldBelow
import Reduct.Proofs.Parse.Kept
import Reduct.Proofs.Session.Inputs

/-!
# Sessions keep to a discipline

What a session reads from a text consists of words, of symbols that operators put in, and of what
declared operators are named after. So a discipline of evaluation goes from each text to the next,
and two sessions that are given the same stay related by it (`Session.relates_after`). In particular
marks reach down in all that a session defines, and what it is told of unmarked nodes does not show.
-/

namespace Reduct

open EvalM (Gives gives_scopes gives_report)

variable {D : Discipline} {c : Nat}

theorem gives_operators :
    EvalM.operators.Gives D c fun c table => table.Keeps (D.expr c) := by
  refine .bind gives_scopes fun c' _ s hs => ?_
  refine .bind (.forM _ (fun event _ => gives_report event) _) fun c'' hc _ _ => .pure ?_
  exact fun n hn => Scopes.keeps_operators (D.kept n) (D.scopes_mono (Nat.le_trans hc hn) hs)

/-- What is read from a text has the properties, and so has its value. -/
theorem gives_evaluateText {ev : Evaluator} (hev : ev.KeepsTo D) (source : String)
    (isEchoed : Bool) :
    (EvalM.evaluateText ev.evaluate source isEchoed).Gives D c fun _ _ => True := by
  refine .bind gives_operators fun c' _ table htable => ?_
  cases hparse : parse table source with
  | error error => exact .pure fun _ _ => trivial
  | ok e =>
      have he : D.expr c' e := Parse.holds_of_parse (D.kept c') htable hparse
      have hvalue {c'' : Nat} (hc : c' ≤ c'') :
          (do return .ok (← ev.evaluate e) : EvalM (Except SyntaxError Expr)).Gives D c''
            fun _ _ => True :=
        .bind (Evaluator.gives_evaluate hev c'' e (D.expr_mono hc he)) fun _ _ _ _ =>
          .pure fun _ _ => trivial
      exact .ite (.bind (gives_report _) fun _ hc _ _ => hvalue hc) (hvalue (Nat.le_refl _))

/-- The property holds of an expression that is given. -/
def Input.Keeps (D : Discipline) : Input → Prop
  | .text _ _ => True
  | .expr e => D.expr 0 e

namespace Session

theorem relates_feed {s s' : Session} (hev : s.evaluator.KeepsTo D)
    (hsame : s'.evaluator = s.evaluator) (h : D.Relates s.machine s'.machine) {input : Input}
    (hinput : input.Keeps D) : D.Relates (s.feed input).machine (s'.feed input).machine := by
  cases input with
  | text source isEchoed =>
      have hgives : (EvalM.evaluateText s.evaluator.evaluate source isEchoed).Gives D 0
          fun _ _ => True := gives_evaluateText hev source isEchoed
      rw [feed, feed, evaluateText, evaluateText, hsame]
      exact (hgives s.machine s'.machine h (Nat.zero_le _)).2.1
  | expr e =>
      have hgives := Evaluator.gives_evaluate hev 0 e hinput
      rw [feed, feed, evaluate, evaluate, hsame]
      exact (hgives s.machine s'.machine h (Nat.zero_le _)).2.1

theorem relates_feedAll {s s' : Session} (hev : s.evaluator.KeepsTo D)
    (hsame : s'.evaluator = s.evaluator) (h : D.Relates s.machine s'.machine) {inputs : List Input}
    (hinputs : ∀ input ∈ inputs, input.Keeps D) :
    D.Relates (s.feedAll inputs).machine (s'.feedAll inputs).machine := by
  induction inputs generalizing s s' with
  | nil => exact h
  | cons input inputs ih =>
      rw [List.forall_mem_cons] at hinputs
      rw [feedAll, feedAll, List.foldl_cons, List.foldl_cons]
      refine ih ?_ ?_ (relates_feed hev hsame h hinputs.1) hinputs.2
      · rw [evaluator_feed]
        exact hev
      · rw [evaluator_feed, evaluator_feed, hsame]

/-- **Two sessions that are given the same stay related,** if what they are told of shared nodes
makes no difference. -/
theorem relates_after (D : Discipline) (config : Config) (groups : List Group)
    (attention : Option Level) {inputs : List Input} {sharing sharing' : Nat → Sharing}
    (htold : ∀ n, D.told (sharing n) (sharing' n)) (hinputs : ∀ input ∈ inputs, input.Keeps D) :
    D.Relates (after config groups attention inputs sharing).machine
      (after config groups attention inputs sharing').machine := by
  have hstart : D.Relates (start config groups attention sharing).machine
      (start config groups attention sharing').machine :=
    ⟨rfl, rfl, rfl, fun n => htold _, D.scopes_initial 0, D.renamings_nil⟩
  have hsame : (start config groups attention sharing').evaluator =
      (start config groups attention sharing).evaluator := rfl
  exact relates_feedAll (Evaluator.keepsTo_ofGroups D config.limits groups) hsame hstart hinputs

/-! ### Hold marks -/

section Marks

variable (config : Config) (groups : List Group) (attention : Option Level) {inputs : List Input}
  (hinputs : ∀ e, Input.expr e ∈ inputs → e.Everywhere Expr.HeldBelow)
include hinputs

/-- **It does not show in a session which unmarked nodes are shared.** -/
theorem agreeOnMarked_after {sharing sharing' : Nat → Sharing}
    (htold : ∀ n, (sharing n).ofMarked = (sharing' n).ofMarked) :
    let m := (after config groups attention inputs sharing).machine
    m.AgreeOnMarked (after config groups attention inputs sharing').machine ∧
      m.scopes.MarksReachDown := by
  refine Machine.relates_heldBelow_iff.mp
    (relates_after .heldBelow config groups attention htold fun input hinput => ?_)
  cases input with
  | text source isEchoed => trivial
  | expr e => exact hinputs e hinput

/-- **Marks reach down in the definitions of every session,** if they do in the expressions that it
is given. -/
theorem marksReachDown_after (sharing : Nat → Sharing) :
    (after config groups attention inputs sharing).machine.scopes.MarksReachDown :=
  (agreeOnMarked_after config groups attention hinputs fun _ => rfl).2

end Marks

end Session

end Reduct
