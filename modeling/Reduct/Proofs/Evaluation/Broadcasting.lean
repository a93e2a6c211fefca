import Reduct.Proofs.Evaluation.Standing
import Reduct.Proofs.Expr.Nesting

/-!
# Listable applications broadcast

A step threads a listable application over one level of lists, and the applications that it makes
are evaluated in their turn. Together this is a recursion over all levels at once
(`Nesting.broadcast`), with the arguments as trees of lists of unequal shapes: the lists among the
arguments go along each other, and everything else is repeated. The recursion ends because a slice
has fewer lists in it (`Nesting.nodesAll_slice_lt`), and the proof that evaluation does the same
(`Evaluator.comesTo_broadcast`) goes by it.
-/

namespace Reduct

namespace Nesting

/-! ### Slices of trees of lists -/

/-- How many items a list has. -/
def length? : Nesting → Option Nat
  | leaf _ => none
  | node _ _ items => some items.length

/-- What stands for the tree in the slice at `index`: of a list its item there, and else itself. -/
def item (index : Nat) : Nesting → Nesting
  | leaf e => leaf e
  | node _ _ items => items[index]?.getD (leaf .null)

/-- The slice of the trees at `index`. -/
def slice (index : Nat) (ts : List Nesting) : List Nesting := ts.map (item index)

mutual

/-- How many lists there are in the tree. -/
def nodes : Nesting → Nat
  | leaf _ => 0
  | node _ _ items => nodesAll items + 1

def nodesAll : List Nesting → Nat
  | [] => 0
  | t :: ts => t.nodes + nodesAll ts

end

theorem nodes_le_nodesAll {t : Nesting} {ts : List Nesting} (h : t ∈ ts) :
    t.nodes ≤ nodesAll ts := by
  induction ts with
  | nil => cases h
  | cons t' ts ih =>
      rw [nodesAll]
      rcases List.mem_cons.mp h with rfl | h
      · exact Nat.le_add_right _ _
      · exact Nat.le_add_left_of_le (ih h)

theorem nodes_item_lt (index : Nat) (marked held : Bool) (items : List Nesting) :
    ((node marked held items).item index).nodes < (node marked held items).nodes := by
  rw [item, nodes]
  cases h : items[index]? with
  | none => exact Nat.succ_pos _
  | some t => exact Nat.lt_succ_of_le (nodes_le_nodesAll (List.mem_of_getElem? h))

theorem nodes_item_le (index : Nat) (t : Nesting) : (t.item index).nodes ≤ t.nodes := by
  cases t with
  | leaf e => exact Nat.le_refl _
  | node marked held items => exact Nat.le_of_lt (nodes_item_lt ..)

theorem nodesAll_slice_le (index : Nat) (ts : List Nesting) :
    nodesAll (slice index ts) ≤ nodesAll ts := by
  induction ts with
  | nil => exact Nat.le_refl _
  | cons t ts ih => exact Nat.add_le_add (nodes_item_le index t) ih

/-- **A slice has fewer lists in it,** if there is one to slice. -/
theorem nodesAll_slice_lt (index : Nat) {ts : List Nesting} (h : ts.filterMap length? ≠ []) :
    nodesAll (slice index ts) < nodesAll ts := by
  induction ts with
  | nil => exact absurd rfl h
  | cons t ts ih =>
      cases t with
      | leaf e => exact Nat.add_lt_add_left (ih h) _
      | node marked held items =>
          exact Nat.add_lt_add_of_lt_of_le (nodes_item_lt ..) (nodesAll_slice_le index ts)

/-- The application over trees of lists, all the way down. Lists of unequal lengths are a failure,
and so is a list in which something failed: the first failure replaces it. -/
def broadcast (head : Expr) (args : List Nesting) : Expr :=
  match _ : args.filterMap length? with
  | [] => .app head (exprs "List" args)
  | length :: lengths =>
    if lengths.all (· == length) then
      let items := (List.range length).map fun index => broadcast head (slice index args)
      (items.find? Expr.isAbort).getD (.list items)
    else
      .call "Abort" [.app head (exprs "List" args),
        .string "Listable arguments have inconsistent lengths"]
termination_by nodesAll args
decreasing_by exact nodesAll_slice_lt index (Eq.trans_ne ‹_› (List.cons_ne_nil length lengths))

/-! ### One level of threading -/

theorem lengths_exprs {ts : List Nesting} (h : ∀ e ∈ leavesAll ts, e.isCall "List" = false) :
    ((exprs "List" ts).filter (Expr.isCall "List")).map (fun a => a.args.length) =
      ts.filterMap length? := by
  induction ts with
  | nil => rfl
  | cons t ts ih =>
      rw [leavesAll, List.forall_mem_append] at h
      cases t with
      | leaf e =>
          have he := h.1 e (List.mem_singleton_self e)
          rw [exprs, expr, List.filter_cons_of_neg (by simp [he]), ih h.2]
          rfl
      | node marked held items =>
          rw [exprs, expr, List.filter_cons_of_pos (Expr.isCall_apply ..), List.map_cons, ih h.2]
          simp [Expr.args, exprs_eq_map, length?]

/-- At the index there is an item in each list. -/
def Within (index : Nat) (ts : List Nesting) : Prop := ∀ t ∈ ts, ∀ n ∈ t.length?, index < n

variable {index : Nat} {t : Nesting} {ts : List Nesting}

theorem item_node_of_lt {marked held : Bool} {items : List Nesting} (h : index < items.length) :
    (node marked held items).item index = items[index] := by
  rw [item, List.getElem?_eq_getElem h, Option.getD_some]

theorem leaves_item_subset (h : ∀ n ∈ t.length?, index < n) : (t.item index).leaves ⊆ t.leaves := by
  cases t with
  | leaf e => exact List.Subset.refl _
  | node marked held items =>
      have hindex : index < items.length := h _ rfl
      rw [item_node_of_lt hindex, leaves, leavesAll_eq_flatMap]
      exact fun e he => List.mem_flatMap.mpr ⟨_, List.getElem_mem hindex, he⟩

theorem leaves_slice_subset (h : Within index ts) : leavesAll (slice index ts) ⊆ leavesAll ts := by
  simp only [leavesAll_eq_flatMap, slice, List.flatMap_map]
  intro e he
  obtain ⟨t, ht, he⟩ := List.mem_flatMap.mp he
  exact List.mem_flatMap.mpr ⟨t, ht, leaves_item_subset (h t ht) he⟩

theorem slice_exprs (hleaves : ∀ e ∈ leavesAll ts, e.isCall "List" = false)
    (h : Within index ts) :
    Expr.slice (exprs "List" ts) index = exprs "List" (slice index ts) := by
  simp only [Expr.slice, exprs_eq_map, slice, List.map_map]
  refine List.map_congr_left fun t ht => ?_
  cases t with
  | leaf e =>
      have hmem : e ∈ ts.flatMap leaves :=
        List.mem_flatMap.mpr ⟨_, ht, List.mem_singleton_self e⟩
      have he : e.isCall "List" = false := hleaves e (leavesAll_eq_flatMap ts ▸ hmem)
      simp [expr, item, he]
  | node marked held items =>
      have hindex : index < items.length := h _ ht _ rfl
      simp [expr, item_node_of_lt hindex, Expr.isCall_apply, Expr.args, exprs_eq_map, hindex]

section Lists

variable {length : Nat} {lengths : List Nat} (hlengths : ts.filterMap length? = length :: lengths)
include hlengths

theorem within_of_lengths (hall : lengths.all (· == length)) (h : index < length) :
    Within index ts := by
  intro t ht n hn
  have hmem : n ∈ length :: lengths := hlengths ▸ List.mem_filterMap.mpr ⟨t, ht, hn⟩
  rcases List.mem_cons.mp hmem with rfl | hmem
  · exact h
  · rwa [eq_of_beq (List.all_eq_true.mp hall n hmem)]

variable (head : Expr) (hleaves : ∀ e ∈ leavesAll ts, e.isCall "List" = false)
include hleaves

omit head in
theorem any_isCall_exprs : (exprs "List" ts).any (Expr.isCall "List") := by
  by_contra hnone
  rw [← lengths_exprs hleaves, List.filter_eq_nil_iff.mpr (by simpa using hnone)] at hlengths
  cases hlengths

/-- **A step threads over one level of the trees.** -/
theorem thread_exprs (hall : lengths.all (· == length)) :
    Expr.thread head (exprs "List" ts) =
      .list ((List.range length).map fun index => .app head (exprs "List" (slice index ts))) := by
  simp only [Expr.thread, lengths_exprs hleaves, hlengths, if_pos hall]
  refine congrArg _ (List.map_congr_left fun index hindex => ?_)
  rw [slice_exprs hleaves (within_of_lengths hlengths hall (List.mem_range.mp hindex))]

theorem thread_exprs_of_unequal (hall : ¬ lengths.all (· == length)) :
    Expr.thread head (exprs "List" ts) =
      (Expr.app head (exprs "List" ts)).abort Failure.unequalLists.message := by
  simp only [Expr.thread, lengths_exprs hleaves, hlengths, if_neg hall]

end Lists

end Nesting

namespace Evaluator

open EvalM (ComesTo)
open Nesting (exprs leavesAll slice broadcast)

variable {ev : Evaluator} {m : Machine} {name : String}

/-! ### Lists of expressions that stand -/

/-- The symbol is listable, lists are lists, and neither has another meaning. -/
structure IsListable (ev : Evaluator) (m : Machine) (name : String) : Prop where
  ne_abort : name ≠ "Abort"
  attributes : Attributes.ofSymbol m.scopes name = { listable := true }
  free : ev.IsFree m.scopes name
  list_attributes : Attributes.ofSymbol m.scopes "List" = {}
  list_free : ev.IsFree m.scopes "List"

/-- The expression comes to itself and has not failed. -/
structure IsValue (ev : Evaluator) (m : Machine) (e : Expr) : Prop where
  stands : ev.Stands m e
  not_isAbort : e.isAbort = false

namespace IsListable

theorem evaluates (h : ev.IsListable m name) (index : Nat) :
    (Attributes.ofSymbol m.scopes name).evaluates index := by
  rw [h.attributes]
  rfl

theorem evaluates_list (h : ev.IsListable m name) (index : Nat) :
    (Attributes.ofSymbol m.scopes "List").evaluates index := by
  rw [h.list_attributes]
  rfl

theorem isValue_list (hev : ev.IsStepwise) (h : ev.IsListable m name) {items : List Expr}
    (hitems : ∀ e ∈ items, ev.IsValue m e) (marked held : Bool) :
    ev.IsValue m (.apply (.symbol "List" marked) items held) := by
  refine ⟨?_, Expr.isAbort_apply_of_ne (by decide) ..⟩
  cases held with
  | true => exact fun _ _ => comesTo_of_isHeld rfl
  | false =>
      refine h.list_free.stands_app hev h.evaluates_list (fun e he => (hitems e he).stands) ?_
      rw [h.list_attributes, assembled, unfailed_eq_ok fun e he => (hitems e he).not_isAbort]
      rfl

/-- An application that has no lists to thread over comes to itself. -/
theorem isValue_app (hev : ev.IsStepwise) (h : ev.IsListable m name) {args : List Expr}
    (hargs : ∀ a ∈ args, ev.IsValue m a) (hlists : ∀ a ∈ args, a.isCall "List" = false)
    (marked : Bool) : ev.IsValue m (.app (.symbol name marked) args) := by
  refine ⟨?_, Expr.isAbort_apply_of_ne h.ne_abort ..⟩
  refine h.free.stands_app hev h.evaluates (fun a ha => (hargs a ha).stands) ?_
  have hnone : args.any (Expr.isCall "List") = false :=
    List.any_eq_false.mpr fun a ha => by simp [hlists a ha]
  rw [h.attributes, assembled, unfailed_eq_ok fun a ha => (hargs a ha).not_isAbort]
  simp [arrange, Expr.symbol?, hnone]

mutual

theorem isValue_expr (hev : ev.IsStepwise) (h : ev.IsListable m name) : ∀ t : Nesting,
    (∀ e ∈ t.leaves, ev.IsLeaf m "List" e) → ev.IsValue m (t.expr "List")
  | .leaf e, hleaves =>
      have he := hleaves e (List.mem_singleton_self e)
      ⟨he.inert.stands hev, he.not_isAbort⟩
  | .node marked held items, hleaves =>
      isValue_list hev h (isValue_exprs hev h items hleaves) marked held

theorem isValue_exprs (hev : ev.IsStepwise) (h : ev.IsListable m name) : ∀ ts : List Nesting,
    (∀ e ∈ leavesAll ts, ev.IsLeaf m "List" e) → ∀ e ∈ exprs "List" ts, ev.IsValue m e
  | [], _ => nofun
  | t :: ts, hleaves => by
      rw [leavesAll, List.forall_mem_append] at hleaves
      exact List.forall_mem_cons.mpr
        ⟨isValue_expr hev h t hleaves.1, isValue_exprs hev h ts hleaves.2⟩

end

end IsListable

/-! ### Lists of values and failures -/

/-- The list, or the first failure in it. -/
theorem assembled_list (values : List Expr) :
    assembled {} (.sym "List") values = (values.find? Expr.isAbort).getD (.list values) := by
  rw [assembled, unfailed]
  cases values.find? Expr.isAbort <;> rfl

section Items

variable {levels : Nat} {es items : List Expr} (hitems : ∀ v ∈ items, v.isAbort ∨ ev.IsValue m v)
include hitems

theorem isValue_items (hnone : items.find? Expr.isAbort = none) :
    ∀ v ∈ items, ev.IsValue m v := by
  intro v hv
  exact (hitems v hv).resolve_left (List.find?_eq_none.mp hnone v hv)

variable (hev : ev.IsStepwise) (h : ev.IsListable m name)
include hev h

theorem IsListable.isAbort_or_isValue :
    ((items.find? Expr.isAbort).getD (.list items)).isAbort ∨
      ev.IsValue m ((items.find? Expr.isAbort).getD (.list items)) := by
  cases hfind : items.find? Expr.isAbort with
  | some failed => exact .inl (List.find?_some hfind)
  | none => exact .inr (h.isValue_list hev (isValue_items hitems hfind) false false)

/-- A list settles in the list of what its items come to, or in the first failure among that. -/
theorem IsListable.settles_list (hlevels : levels ≤ ev.limits.recursion - m.depth)
    (hargs : ComeTo m (ev.evaluateWithin levels) es items) (input : Expr) :
    ev.Settles levels m input (.list es) ((items.find? Expr.isAbort).getD (.list items)) := by
  have hreduce {es : List Expr} (hargs : ComeTo m (ev.evaluateWithin levels) es items) :
      ComesTo m (ev.reduce (ev.evaluateWithin levels) (.list es))
        (.plain ((items.find? Expr.isAbort).getD (.list items))) := by
    rw [← assembled_list, ← h.list_attributes]
    exact h.list_free.comesTo_reduce hev h.evaluates_list hlevels hargs false
  cases hfind : items.find? Expr.isAbort with
  | some failed =>
      have hfailed : failed.isAbort := List.find?_some hfind
      have hfirst := hreduce hargs
      rw [hfind] at hfirst
      refine .of_step hev hfirst (fun _ => rfl) fun hactive => ?_
      exact absurd hactive (Bool.eq_false_iff.mp (Reduced.isActive_of_isAbort hfailed))
  | none =>
      have hagain := hreduce (comeTo_self (fun v hv => (isValue_items hitems hfind v hv).stands)
        hlevels)
      have hfirst := hreduce hargs
      rw [hfind] at hfirst hagain
      exact .of_stable hev hfirst hagain

end Items

/-! ### All the way down -/

theorem IsListable.ne_list (h : ev.IsListable m name) : "List" ≠ name := by
  rintro rfl
  have hattributes := h.attributes.symm.trans h.list_attributes
  cases hattributes

section Threading

variable {args : List Nesting} {levels : Nat} (hev : ev.IsStepwise) (h : ev.IsListable m name)
  (hleaves : ∀ e ∈ leavesAll args, ev.IsLeaf m "List" e)
include hev h hleaves

/-- What has no lists among its arguments comes to itself. -/
theorem IsListable.isValue_leaves (hnone : args.filterMap Nesting.length? = []) (marked : Bool) :
    ev.IsValue m (.app (.symbol name marked) (exprs "List" args)) := by
  refine h.isValue_app hev (h.isValue_exprs hev args hleaves) (fun a ha => ?_) marked
  rw [← Nesting.lengths_exprs fun e he => (hleaves e he).not_isCall, List.map_eq_nil_iff,
    List.filter_eq_nil_iff] at hnone
  exact Bool.eq_false_iff.mpr (hnone a ha)

variable {length : Nat} {lengths : List Nat}
  (hlengths : args.filterMap Nesting.length? = length :: lengths)
  (hlevels : levels ≤ ev.limits.recursion - m.depth) (marked : Bool)
include hlengths hlevels

/-- The first step threads. -/
theorem IsListable.comesTo_thread :
    ComesTo m
      (ev.reduce (ev.evaluateWithin levels) (.app (.symbol name marked) (exprs "List" args)))
      (.plain (Expr.thread (.symbol name marked) (exprs "List" args))) := by
  have hvalues := h.isValue_exprs hev args hleaves
  have hreduce := h.free.comesTo_reduce hev h.evaluates hlevels
    (comeTo_self (fun e he => (hvalues e he).stands) hlevels) marked
  have hany := Nesting.any_isCall_exprs hlengths fun e he => (hleaves e he).not_isCall
  have hassembled : assembled { listable := true } (.symbol name marked) (exprs "List" args) =
      Expr.thread (.symbol name marked) (exprs "List" args) := by
    rw [assembled, unfailed_eq_ok fun e he => (hvalues e he).not_isAbort]
    simp [arrange, Expr.symbol?, hany]
  rwa [h.attributes, hassembled] at hreduce

theorem IsListable.settles_unequal (hall : ¬ lengths.all (· == length)) (input : Expr) :
    ev.Settles levels m input (.app (.symbol name marked) (exprs "List" args))
      (.call "Abort" [.app (.symbol name marked) (exprs "List" args),
        .string "Listable arguments have inconsistent lengths"]) := by
  have hthread := h.comesTo_thread hev hleaves hlengths hlevels marked
  rw [Nesting.thread_exprs_of_unequal hlengths _ (fun e he => (hleaves e he).not_isCall) hall,
    Expr.abort, if_neg (by simp [Expr.isAbort_apply_of_ne h.ne_abort])] at hthread
  refine .of_step hev hthread (fun _ => rfl) fun hactive => ?_
  exact absurd hactive (Bool.eq_false_iff.mp (Reduced.isActive_of_isAbort rfl))

/-- The second step evaluates the list that the first one makes. -/
theorem IsListable.settles_equal (hall : lengths.all (· == length)) {item : Nat → Expr}
    (hcomes : ∀ index < length, ComesTo m (ev.evaluateWithin levels
      (.app (.symbol name marked) (exprs "List" (slice index args)))) (item index))
    (hitems : ∀ v ∈ (List.range length).map item, v.isAbort ∨ ev.IsValue m v) (input : Expr) :
    let items := (List.range length).map item
    ev.Settles levels m input (.app (.symbol name marked) (exprs "List" args))
      ((items.find? Expr.isAbort).getD (.list items)) := by
  intro items
  have hthread := h.comesTo_thread hev hleaves hlengths hlevels marked
  rw [Nesting.thread_exprs hlengths _ (fun e he => (hleaves e he).not_isCall) hall] at hthread
  refine .of_step hev hthread (fun hlast => ?_) fun _ => ?_
  · simp [Reduced.isActive, Reduced.plain, Expr.same, h.ne_list, Expr.isHeld,
      Expr.isAbort_apply_of_ne (show "List" ≠ "Abort" by decide)] at hlast
  · refine h.settles_list hitems hev hlevels ?_ input
    exact List.forall₂_map_left_iff.mpr (List.forall₂_map_right_iff.mpr
      (List.forall₂_same.mpr fun index hindex => hcomes index (List.mem_range.mp hindex)))

end Threading

/-- **Evaluation broadcasts.** -/
theorem comesTo_broadcast (hev : ev.IsStepwise) (h : ev.IsListable m name) (marked : Bool)
    (args : List Nesting) (hleaves : ∀ e ∈ leavesAll args, ev.IsLeaf m "List" e) :
    let head : Expr := .symbol name marked
    (∀ levels ≤ ev.limits.recursion - m.depth,
      ComesTo m (ev.evaluateWithin levels (.app head (exprs "List" args))) (broadcast head args)) ∧
    ((broadcast head args).isAbort ∨ ev.IsValue m (broadcast head args)) := by
  intro head
  fun_induction broadcast head args with
  | case1 args hnone =>
      have hvalue := h.isValue_leaves hev hleaves hnone marked
      exact ⟨hvalue.stands, .inr hvalue⟩
  | case2 args length lengths hlengths hall items ih =>
      have hslice (index : Nat) (hindex : index < length) := ih index fun e he =>
        hleaves e (Nesting.leaves_slice_subset (Nesting.within_of_lengths hlengths hall hindex) he)
      have hitems : ∀ v ∈ items, v.isAbort ∨ ev.IsValue m v := by
        intro v hv
        obtain ⟨index, hindex, rfl⟩ := List.mem_map.mp hv
        exact (hslice index (List.mem_range.mp hindex)).2
      refine ⟨fun levels hlevels => comesTo_of_settles rfl fun inner hinner => ?_,
        h.isAbort_or_isValue hitems hev⟩
      have hinside : inner ≤ ev.limits.recursion - m.depth := by omega
      exact h.settles_equal hev hleaves hlengths hinside marked hall
        (fun index hindex => (hslice index hindex).1 inner hinside) hitems _
  | case3 args length lengths hlengths hall =>
      refine ⟨fun levels hlevels => comesTo_of_settles rfl fun inner hinner => ?_, .inl rfl⟩
      exact h.settles_unequal hev hleaves hlengths (by omega) marked hall _

end Evaluator

end Reduct
