import Reduct.Proofs.Evaluation.Keeping
import Reduct.Proofs.Rule.HeldBelow

/-!
# Unmarked nodes and evaluation

Evaluation keeps it that hold marks reach down: if nothing below a held node is unmarked in an
expression and in the definitions, the same is true of the value and of what has been defined by
then. And as long as it is true, it does not show whether an unmarked node is put in its own place,
since the nodes above it are built anew as what they were (`IsPass.ofMarked`). So two evaluations of
an expression that are told the same of numbers, strings and marked nodes come to the same
(`Evaluator.evaluate_of_agreeFor`).
-/

namespace Reduct

open Reduct.Expr (Everywhere HeldBelow)

/-- A property of all nodes, that marks reach down, is kept. -/
theorem Expr.kept_heldBelow : Kept (fun _ => True) (Everywhere HeldBelow) where
  toHereditary := hereditary_heldBelow
  plain _ _ := trivial
  number _ := .of_atom rfl (.of_unheld rfl)
  string _ := .of_atom rfl (.of_unheld rfl)
  sym _ := .of_atom rfl (.of_unheld rfl)
  name _ := trivial
  holdForm _ := fun path d hd => ((marked_holdForm _).everywhere path d hd).heldBelow
  releaseHold _ := (marked_releaseHold _).everywhere_heldBelow

/-- Marks reach down in all that is defined. -/
abbrev Scopes.MarksReachDown : Scopes → Prop := Holds (fun _ => True) (Everywhere HeldBelow)

/-- **Hold marks reach down,** and it makes no difference what a rewriting is told of unmarked
nodes. -/
def Discipline.heldBelow : Discipline where
  name _ _ := True
  expr _ := Everywhere HeldBelow
  renamings _ _ := True
  told s s' := s.ofMarked = s'.ofMarked
  kept _ := Expr.kept_heldBelow
  name_mono _ _ := trivial
  expr_mono _ h := h
  name_freshName _ _ := trivial
  renamings_nil := trivial
  renamings_cons _ _ _ _ := trivial
  instantiate_eq captures htold h := by
    rw [← captures.instantiate_ofMarked h, htold, captures.instantiate_ofMarked h]
  replace_eq htold hrules h := by
    rw [← Replace.replace_ofMarked hrules _ h, htold, Replace.replace_ofMarked hrules _ h]
  replaceAll_eq htold hrules h := by
    rw [← Replace.replaceAll_ofMarked hrules _ h, htold, Replace.replaceAll_ofMarked hrules _ h]

namespace Machine

/-- The states have the same definitions, depth and names drawn, and the rewritings to come are told
the same of numbers, strings and marked nodes. -/
structure AgreeOnMarked (m m' : Machine) : Prop where
  scopes : m.scopes = m'.scopes
  depth : m.depth = m'.depth
  lastFresh : m.lastFresh = m'.lastFresh
  answers : ∀ n, (m.answers n).ofMarked = (m'.answers n).ofMarked

namespace AgreeOnMarked

variable {m m' m'' : Machine}

theorem trans (h : AgreeOnMarked m m') (h' : AgreeOnMarked m' m'') : AgreeOnMarked m m'' :=
  ⟨h.scopes.trans h'.scopes, h.depth.trans h'.depth, h.lastFresh.trans h'.lastFresh,
    fun n => (h.answers n).trans (h'.answers n)⟩

end AgreeOnMarked

theorem Agree.agreeOnMarked {m m' : Machine} (h : Agree m m') : AgreeOnMarked m m' :=
  ⟨h.scopes, h.depth, h.lastFresh, fun n => by rw [h.answers]⟩

theorem relates_heldBelow_iff {m m' : Machine} :
    Discipline.heldBelow.Relates m m' ↔ AgreeOnMarked m m' ∧ m.scopes.MarksReachDown :=
  ⟨fun h => ⟨⟨h.scopes_eq, h.depth_eq, h.lastFresh_eq, h.told⟩, h.scopes⟩,
    fun ⟨h, hscopes⟩ => ⟨h.scopes, h.depth, h.lastFresh, h.answers, hscopes, trivial⟩⟩

/-- The states agree as far as an evaluation of `e` can tell. The rewritings to come are told the
same, and where marks reach down it is enough that they are told the same of numbers, strings and
marked nodes. -/
structure AgreeFor (e : Expr) (m m' : Machine) : Prop where
  scopes : m.scopes = m'.scopes
  depth : m.depth = m'.depth
  lastFresh : m.lastFresh = m'.lastFresh
  told : m.answers = m'.answers ∨ e.Everywhere HeldBelow ∧ m.scopes.MarksReachDown ∧
    ∀ n, (m.answers n).ofMarked = (m'.answers n).ofMarked

namespace AgreeFor

variable {e : Expr} {m m' : Machine}

theorem agreeOnMarked (h : AgreeFor e m m') : AgreeOnMarked m m' := by
  refine ⟨h.scopes, h.depth, h.lastFresh, fun n => ?_⟩
  obtain hanswers | ⟨-, -, hanswers⟩ := h.told
  · rw [hanswers]
  · exact hanswers n

/-- It is the same for another expression in which marks reach down. -/
theorem of_heldBelow {e' : Expr} (h : AgreeFor e m m') (he' : e'.Everywhere HeldBelow) :
    AgreeFor e' m m' :=
  ⟨h.scopes, h.depth, h.lastFresh, h.told.imp_right fun ⟨_, htold⟩ => ⟨he', htold⟩⟩

end AgreeFor

end Machine

namespace Evaluator

open Machine (AgreeFor AgreeOnMarked)

variable {ev : Evaluator} {e : Expr} {m m' : Machine} (hstepwise : ev.IsStepwise)
  (hev : ev.KeepsTo .heldBelow) (h : AgreeFor e m m')
include hstepwise hev h

/-- **It does not show in an evaluation which unmarked nodes are shared,** as long as marks reach
down. -/
theorem evaluate_of_agreeFor :
    ((ev.evaluate e).run m).1 = ((ev.evaluate e).run m').1 ∧
      AgreeOnMarked ((ev.evaluate e).run m).2 ((ev.evaluate e).run m').2 := by
  have hmarked := h.agreeOnMarked
  obtain hanswers | ⟨he, hscopes, -⟩ := h.told
  · obtain ⟨hvalue, hstate⟩ :=
      respects_evaluate hstepwise e m m' ⟨h.scopes, h.depth, h.lastFresh, hanswers⟩
    exact ⟨hvalue, hstate.agreeOnMarked⟩
  · obtain ⟨hvalue, hstate, -, -⟩ := gives_evaluate hev 0 e he m m'
      (Machine.relates_heldBelow_iff.mpr ⟨hmarked, hscopes⟩) (Nat.zero_le _)
    exact ⟨hvalue, (Machine.relates_heldBelow_iff.mp hstate).1⟩

/-- Nor does it show in a step. -/
theorem reduce_of_agreeFor :
    ((ev.reduce ev.evaluate e).run m).1 = ((ev.reduce ev.evaluate e).run m').1 := by
  have hmarked := h.agreeOnMarked
  obtain hanswers | ⟨he, hscopes, -⟩ := h.told
  · exact (reduce_of_agree hstepwise (p := (e, m))
      ⟨h.scopes, h.depth, h.lastFresh, hanswers⟩).1
  · exact (gives_reduce (gives_evaluate hev) hev (c := 0) he m m'
      (Machine.relates_heldBelow_iff.mpr ⟨hmarked, hscopes⟩) (Nat.zero_le _)).1

end Evaluator

end Reduct
