import Mathlib.Logic.Relation
import Reduct.Proofs.Evaluation.Limits

/-!
# The states on the way

An evaluation goes from state to state by elementary steps: it does one elementary thing, opens or
closes a scope, or enters or leaves a level of evaluation, which it only leaves after it entered
it. `Machine.Leads` is one such step, and every evaluation takes some number of them
(`Evaluator.reaches_evaluate`). So what is said of all states that such steps reach is said of those
in the middle of an evaluation, and not only of the one it ends in. The scopes of all these states
are reachable ones.

Threading over lists takes an item of each list by its place, and the places are those of the list
whose length was found first. Here each place is checked (`Expr.thread?`); the lengths have been
compared before, so none is out of range.
-/

namespace Reduct

open EvalM (Elementary)

variable {m m' : Machine}

/-! ### Elementary steps -/

/-- An elementary step leads from a state to the next. Which steps an evaluation takes is left
open: what no step breaks holds all along any evaluation. -/
inductive Machine.Leads (m : Machine) : Machine → Prop
  | elementary {α : Type} {x : EvalM α} : Elementary x → Leads m (x.run m).2
  | openScope (locals : List String) : Leads m ((EvalM.openScope locals).run m).2
  | closeScope : Leads m (EvalM.closeScope.run m).2
  | descend : Leads m m.descend
  | ascend : 0 < m.depth → Leads m m.ascend

/-- Some number of elementary steps leads from a state to another. -/
abbrev Machine.Reaches : Machine → Machine → Prop := Relation.ReflTransGen Machine.Leads

namespace Machine

open Relation.ReflTransGen (single head tail)

theorem depth_openScope (locals : List String) (m : Machine) :
    ((EvalM.openScope locals).run m).2.depth = m.depth := by
  obtain ⟨events, h⟩ := EvalM.run_openScope locals m
  rw [h]

theorem depth_closeScope (m : Machine) : (EvalM.closeScope.run m).2.depth = m.depth := by
  obtain ⟨events, h⟩ := EvalM.run_closeScope m
  rw [h]

/-- The elementary steps of a computation lead back to its depth. -/
theorem frame_reaches : Frame fun m m' => m.Reaches m' ∧ m'.depth = m.depth where
  refl _ := ⟨.refl, rfl⟩
  trans h h' := ⟨h.1.trans h'.1, h'.2.trans h.2⟩
  elementary hx m :=
    have hbalanced : Balanced 0 m _ := .elementary hx m
    ⟨single (.elementary hx), hbalanced.depth⟩
  inScope locals _ hx m := by
    obtain ⟨hreaches, hdepth⟩ := hx ((EvalM.openScope locals).run m).2
    exact ⟨head (.openScope locals) (tail hreaches .closeScope),
      (depth_closeScope _).trans (hdepth.trans (depth_openScope locals m))⟩

/-- Elementary steps do to the scopes what operations on scopes do. -/
theorem Leads.reachable (h : m.Leads m') (hm : m.scopes.Reachable) : m'.scopes.Reachable := by
  cases h with
  | elementary hx =>
      cases hx with
      | write w => exact .step (.write w) hm
      | scopes | drawFresh | noteRenaming args number value | setTracing on | cutShort e limit =>
          exact hm
      | rewriting rewrite counts =>
          rw [EvalM.run_rewriting]
          exact hm
      | report event =>
          obtain ⟨events, h⟩ := EvalM.run_report event m
          exact h ▸ hm
      | recordStep before after =>
          obtain ⟨steps, events, h⟩ := EvalM.run_recordStep before after m
          exact h ▸ hm
  | openScope locals =>
      obtain ⟨events, h⟩ := EvalM.run_openScope locals m
      exact h ▸ .step (.push locals) hm
  | closeScope =>
      obtain ⟨events, h⟩ := EvalM.run_closeScope m
      exact h ▸ .step .pop hm
  | descend | ascend _ => exact hm

theorem Reaches.reachable (h : m.Reaches m') (hm : m.scopes.Reachable) :
    m'.scopes.Reachable := by
  induction h with
  | refl => exact hm
  | tail _ hstep ih => exact hstep.reachable ih

end Machine

/-- **An evaluation takes elementary steps.** -/
theorem Evaluator.reaches_evaluate {ev : Evaluator} (hev : ev.IsStepwise) (e : Expr) (m : Machine) :
    m.Reaches ((ev.evaluate e).run m).2 ∧ ((ev.evaluate e).run m).2.depth = m.depth := by
  refine keeps_evaluate Machine.frame_reaches ?_ hev e m
  rintro m m' ⟨hreaches, hdepth⟩
  -- The level that is left has been entered, so there is one to leave.
  have hpos : 0 < m'.depth := hdepth ▸ Nat.succ_pos m.depth
  exact ⟨.head .descend (.tail hreaches (.ascend hpos)), congrArg (· - 1) hdepth⟩

/-! ### Threading -/

namespace Expr

variable {args : List Expr} {index : Nat}

/-- The `index`-th slice of arguments, with the place of each item checked. -/
def slice? (args : List Expr) (index : Nat) : Option (List Expr) :=
  args.mapM fun a => if a.isCall "List" then a.args[index]? else some a

/-- The application over lists, with the place of each item checked. -/
def thread? (head : Expr) (args : List Expr) : Option Expr :=
  match (args.filter fun a => a.isCall "List").map fun a => a.args.length with
  | [] => some (app head args)
  | length :: lengths =>
    if lengths.all (· == length) then do
      let slices ← (List.range length).mapM (slice? args)
      return list (slices.map (app head))
    else some ((app head args).abort Failure.unequalLists.message)

theorem mapM_eq_some_map {α β : Type} {f : α → Option β} {g : α → β} {items : List α}
    (h : ∀ a ∈ items, f a = some (g a)) : items.mapM f = some (items.map g) := by
  induction items with
  | nil => rfl
  | cons a items ih =>
      obtain ⟨ha, hitems⟩ := List.forall_mem_cons.mp h
      simp [ha, ih hitems]

theorem slice?_eq (h : ∀ a ∈ args, a.isCall "List" → index < a.args.length) :
    slice? args index = some (slice args index) := by
  refine mapM_eq_some_map fun a ha => ?_
  split
  next hlist => simp [h a ha hlist]
  next => rfl

/-- **Every item that threading takes is there.** -/
theorem thread?_eq (head : Expr) (args : List Expr) :
    thread? head args = some (thread head args) := by
  rw [thread?, thread]
  cases hlengths : (args.filter fun a => a.isCall "List").map fun a => a.args.length with
  | nil => rfl
  | cons length lengths =>
      dsimp only
      by_cases hall : lengths.all (· == length)
      · have hlength : ∀ a ∈ args, a.isCall "List" → a.args.length = length := by
          intro a ha hlist
          have hmem : a.args.length ∈ length :: lengths := by
            rw [← hlengths]
            exact List.mem_map_of_mem (List.mem_filter.mpr ⟨ha, hlist⟩)
          obtain h | h := List.mem_cons.mp hmem
          · exact h
          · exact beq_iff_eq.mp (List.all_eq_true.mp hall _ h)
        have hslices : (List.range length).mapM (slice? args) =
            some ((List.range length).map (slice args)) :=
          mapM_eq_some_map fun index hindex => slice?_eq fun a ha hlist =>
            hlength a ha hlist ▸ List.mem_range.mp hindex
        rw [if_pos hall, if_pos hall, hslices]
        simp [Function.comp_def]
      · rw [if_neg hall, if_neg hall]

end Expr

end Reduct
