import Mathlib.Data.List.Nodup
import Reduct.Proofs.Evaluation.HeldBelow
import Reduct.Proofs.Evaluation.Returns

/-!
# Holding and releasing

`Hold` stops evaluation: its value is the expression with all of it marked, and nothing has been
evaluated. `ReleaseHold` gives the expression back, unmarked, in the first step of its evaluation,
and that goes on from there. It then does what an evaluation of the expression does from its start,
with one step less to take: what has been recorded so far, and for what input, makes no difference to
the steps that follow (`Evaluator.Passes.of_agree`). So the two come to the same unless that one step
is missing.
-/

namespace Reduct

open EvalM (Returns)
open Machine (Agree AgreeFor AgreeOnMarked)

/-! ### The two operations -/

namespace Operations

theorem nodup_core : (core.map Prod.fst).Nodup := by decide

theorem not_mem_group (group : Group) :
    ∀ name ∈ core.map Prod.fst, name ∉ group.operations.map Prod.fst := by
  cases group <;> decide

/-- The core operations are the same whatever groups are added. -/
theorem get?_of_mem_core (groups : List Group) {name : String} {operation : Operation}
    (h : (name, operation) ∈ core) : (ofGroups groups).get? name = some operation := by
  refine Table.get?_ofList_of_unique (List.mem_append_left _ h) fun other hother hname => ?_
  obtain hcore | hgroup := List.mem_append.mp hother
  · exact congrArg Prod.snd (List.inj_on_of_nodup_map nodup_core hcore h hname)
  · obtain ⟨group, -, hentry⟩ := List.mem_flatMap.mp hgroup
    exact absurd (List.mem_map.mpr ⟨_, hentry, hname⟩)
      (not_mem_group group name (List.mem_map.mpr ⟨_, h, rfl⟩))

theorem get?_hold (groups : List Group) :
    (ofGroups groups).get? "Hold" = some (.ofFunction 1 Operation.Form.hold) :=
  get?_of_mem_core groups (List.mem_append_right _ (.head _))

theorem get?_releaseHold (groups : List Group) :
    (ofGroups groups).get? "ReleaseHold" = some (.ofFunction 1 Operation.Form.releaseHold) :=
  get?_of_mem_core groups (List.mem_append_right _ (.tail _ (.head _)))

end Operations

/-- The symbol means what it does from the start: it has no rules, and the attributes it had
then. -/
structure Scopes.IsOriginal (s : Scopes) (name : String) : Prop where
  rules : (s.chain name).all fun version => version.rules.rules.isEmpty
  attributes : Attributes.ofSymbol s name = Attributes.ofSymbol .initial name

instance (s : Scopes) (name : String) : Decidable (s.IsOriginal name) :=
  decidable_of_iff (_ ∧ _) ⟨fun h => ⟨h.1, h.2⟩, fun h => ⟨h.1, h.2⟩⟩

theorem Scopes.IsOriginal.resolve?_eq_none {s : Scopes} {name : String} (h : s.IsOriginal name)
    {e : Expr} (howner : e.owner? = some name) (sharing : Sharing) : s.resolve? e sharing = none :=
  resolve?_eq_none_of_owner howner (fun version hversion =>
    List.isEmpty_iff.mp (List.all_eq_true.mp h.rules version hversion)) sharing

namespace Evaluator

variable {ev : Evaluator} {e v : Expr} {m m' : Machine} {r : Reduced}

section Steps

variable (hev : ev.IsStepwise)
  (hholds : ev.operations.get? "Hold" = some (.ofFunction 1 Operation.Form.hold))
  (hhold : m.scopes.IsOriginal "Hold")
include hev hholds hhold

/-- A step with `Hold` does not evaluate the argument. -/
theorem returns_reduce_hold (hdepth : m.depth < ev.limits.recursion) (e : Expr) :
    Returns m (ev.reduce ev.evaluate (.call "Hold" [e])) (.plain e.holdForm) := by
  exact returns_reduce_of_holdAll (returns_symbol hev hdepth (hhold.resolve?_eq_none rfl)) rfl
    (hhold.attributes.trans (by decide +kernel))
    (returns_reduceCall_of_operation rfl (hhold.resolve?_eq_none rfl) hholds (Nat.le_refl 1) rfl)

/-- **`Hold` stops evaluation.** -/
theorem returns_hold (hiterations : 1 ≤ ev.limits.iterations)
    (hdepth : m.depth + 1 < ev.limits.recursion) (e : Expr) :
    Returns m (ev.evaluate (.call "Hold" [e])) e.holdForm := by
  refine returns_of_settle hev rfl (Nat.lt_of_succ_lt hdepth) ?_
  have hreduce := returns_reduce_hold (m := m.descend) hev hholds hhold hdepth e
  cases hgoes : (Reduced.plain e.holdForm).isActive (.call "Hold" [e]) with
  | false => exact returns_settle_of_last hreduce hgoes _
  | true =>
      -- A number or a string bears no mark, so one more step is taken.
      obtain ⟨remaining, hremaining⟩ := Nat.exists_eq_add_of_le' hiterations
      rw [hremaining]
      refine returns_settle_of_next hreduce hgoes
        (returns_settle_of_last (r := .plain e.holdForm) ?_ (Reduced.isActive_plain_self _) remaining)
      cases e with
      | number value | string text => exact .pure _
      | symbol name held | apply head args held =>
          simp [Reduced.isActive, Reduced.plain, Expr.holdForm, Expr.isHeld] at hgoes

/-- A step with `ReleaseHold` gives back what `Hold` has kept. -/
theorem returns_reduce_release
    (hreleases : ev.operations.get? "ReleaseHold" = some (.ofFunction 1 Operation.Form.releaseHold))
    (hrelease : m.scopes.IsOriginal "ReleaseHold") (hiterations : 1 ≤ ev.limits.iterations)
    (hdepth : m.depth + 1 < ev.limits.recursion) (hok : e.isAbort = false) (he : e.Marked false) :
    Returns m (ev.reduce ev.evaluate (.call "ReleaseHold" [.call "Hold" [e]])) (.plain e) := by
  have hattributes : attributesOf m.scopes (.sym "ReleaseHold") = {} :=
    hrelease.attributes.trans (by decide +kernel)
  have hvalue : unfailed [e.holdForm] = .ok [e.holdForm] :=
    unfailed_eq_ok (by simpa [Expr.isAbort_holdForm] using hok)
  have hargs : Returns m (evaluateArgs ev.evaluate (attributesOf m.scopes (.sym "ReleaseHold")) 0
      [.call "Hold" [e]]) (.ok [e.holdForm]) := by
    rw [hattributes, ← hvalue]
    exact returns_evaluateArgs (fun _ => rfl)
      (.cons (returns_hold hev hholds hhold hiterations hdepth e) .nil) 0
  refine returns_reduce_of_ok
    (returns_symbol hev (Nat.lt_of_succ_lt hdepth) (hrelease.resolve?_eq_none rfl)) rfl hargs ?_
  rw [hattributes]
  refine returns_reduceCall_of_operation rfl (hrelease.resolve?_eq_none rfl) hreleases
    (Nat.le_refl 1) ?_
  exact congrArg Except.ok ((Expr.releaseHold_holdForm e).trans he.releaseHold_eq)

end Steps

/-! ### Going on from another expression -/

/-- An expression that a step gives, and that settles with a step less than are allowed, comes to
what the expression comes to from which the step was taken. -/
theorem evaluate_run_of_step (hev : ev.IsStepwise) (he : e.isHeld = false)
    (hdepth : m.depth < ev.limits.recursion)
    (hreduce : Returns m.descend (ev.reduce ev.evaluate e) r) (hactive : r.isActive e) {n : Nat}
    {q : Expr × Machine} (hpasses : Passes (ev.reduce ev.evaluate) r.expr n (r.expr, m.descend) q)
    (hlast : goesOn (ev.reduce ev.evaluate) q = false) (hn : n < ev.limits.iterations) :
    ((ev.evaluate e).run m).1 = ((ev.evaluate r.expr).run m).1 ∧
      Agree ((ev.evaluate r.expr).run m).2 ((ev.evaluate e).run m).2 := by
  have hr : r.expr.isHeld = false := by
    simp only [Reduced.isActive, Bool.and_eq_true, Bool.not_eq_true'] at hactive
    exact hactive.2
  obtain ⟨hfirst, hagree⟩ := returns_advance e hreduce m.descend (.refl _)
  obtain ⟨m'', hpasses', hagree'⟩ := hpasses.of_agree hev e hagree
  have hall : Passes (ev.reduce ev.evaluate) e (n + 1) (e, m.descend) (q.1, m'') := by
    refine .step ?_ ?_
    · rw [goesOn, (hreduce m.descend (.refl _)).1]
      exact hactive
    · rw [stride, hfirst]
      exact hpasses'
  have hlast' := (goesOn_of_agree hev hagree').trans hlast
  obtain ⟨hvalue, hstate⟩ := reduce_of_agree hev hagree'
  rw [evaluate_run hev he hdepth, evaluate_run hev hr hdepth, run_deeper, run_deeper,
    settle_run_of_passes hall hn hlast', settle_run_of_passes hpasses (Nat.le_of_lt hn) hlast,
    stride_of_not_goesOn hlast, stride_of_not_goesOn hlast']
  exact ⟨congrArg Reduced.expr hvalue.symm, hstate.ascend⟩

/-! ### Both together -/

/-- Evaluation goes on from what is released: it is shorter than the release. -/
theorem isActive_released (hok : e.isAbort = false) (hheld : e.isHeld = false) :
    (Reduced.plain e).isActive (.call "ReleaseHold" [.call "Hold" [e]]) := by
  have hlength : e.chars.length ≠ (Expr.call "ReleaseHold" [.call "Hold" [e]]).chars.length := by
    simp only [Expr.chars, Expr.argChars, List.length_append, List.length_cons]
    omega
  simp [Reduced.isActive, Reduced.plain, Expr.same_eq_false_of_length_ne hlength, hok, hheld]

end Evaluator

end Reduct
