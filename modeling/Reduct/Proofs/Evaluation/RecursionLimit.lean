import Reduct.Proofs.Evaluation.Returns
import Reduct.Proofs.Expr.Marks
import Reduct.Proofs.Expr.Names

/-!
# The recursion limit is exact

Where no symbol has a meaning (`Evaluator.IsBare`), evaluation only walks through an expression and
hands it back, the very node, unless it comes to a node for which no level is left. These nodes are
listed by `Expr.nodesAt` in the order in which the walk comes to them, so the first one ends it.
There is none exactly if the expression is less high than there are levels
(`Expr.nodesAt_eq_nil_iff`).

That no node is built where nothing is changed is said of each of the computations an evaluation is
made of: of those that evaluate the arguments, take a step and settle. They all answer `none` then,
and this is what the walk goes by.
-/

namespace Reduct

namespace Expr

variable {e : Expr} {levels : Nat}

/-! ### Levels of an expression -/

mutual

/-- How deep applications are nested in the expression. A head counts like the arguments. -/
def height : Expr → Nat
  | .apply head args _ => max head.height (heightAll args) + 1
  | _ => 0

/-- The greatest height among the expressions. -/
def heightAll : List Expr → Nat
  | [] => 0
  | e :: es => max e.height (heightAll es)

end

mutual

/-- The nodes that lie so many levels below the root: those below the head come before those below
the arguments, and these from left to right. -/
def nodesAt : Nat → Expr → List Expr
  | 0, e => [e]
  | level + 1, .apply head args _ => nodesAt level head ++ nodesAtAll level args
  | _ + 1, _ => []

/-- The nodes so many levels below each of the expressions. -/
def nodesAtAll : Nat → List Expr → List Expr
  | _, [] => []
  | level, e :: es => nodesAt level e ++ nodesAtAll level es

end

mutual

/-- There are nodes at all levels down to the height and at none below. -/
theorem nodesAt_eq_nil_iff : ∀ (level : Nat) (e : Expr), nodesAt level e = [] ↔ e.height < level
  | 0, e => by simp [nodesAt]
  | level + 1, .apply head args _ => by
      rw [nodesAt, List.append_eq_nil_iff, nodesAt_eq_nil_iff level head, height,
        Nat.add_lt_add_iff_right, Nat.max_lt]
      exact and_congr_right fun h => nodesAtAll_eq_nil_iff (Nat.zero_lt_of_lt h) args
  | level + 1, .number _ | level + 1, .string _ | level + 1, .symbol .. => by
      simp [nodesAt, height]

theorem nodesAtAll_eq_nil_iff {level : Nat} (h : 0 < level) : ∀ es : List Expr,
    nodesAtAll level es = [] ↔ heightAll es < level
  | [] => by simpa [nodesAtAll, heightAll] using h
  | e :: es => by
      rw [nodesAtAll, List.append_eq_nil_iff, nodesAt_eq_nil_iff level e,
        nodesAtAll_eq_nil_iff h es, heightAll, Nat.max_lt]

end

/-- The failure of the evaluation of a node for which no level is left. -/
def tooDeep (e : Expr) : Expr := call "Abort" [e, .string "Recursion limit hit"]

theorem isAbort_tooDeep (e : Expr) : e.tooDeep.isAbort := rfl

/-- What evaluation makes of an expression, with so many levels, if it does nothing but walk
through it; `none` if the very node comes back. -/
def within? (levels : Nat) (e : Expr) : Option Expr := (nodesAt levels e).head?.map tooDeep

end Expr

open EvalM (Returns)
open Machine (Agree)

namespace Evaluator

variable {ev : Evaluator} {s : Scopes} {e head : Expr} {levels : Nat} {m : Machine}

/-- The symbol has no meaning to evaluation: no rules, no attributes, no operation, and it is neither
of the two that evaluation knows itself. -/
structure IsBare (ev : Evaluator) (s : Scopes) (name : String) : Prop extends
    ev.IsFree s name where
  attributes : Attributes.ofSymbol s name = {}
  ne_abort : name ≠ "Abort"
  ne_func : name ≠ "Func"

/-- All symbols in the expression are bare. -/
abbrev AllBare (ev : Evaluator) (s : Scopes) (e : Expr) : Prop := e.Names (ev.IsBare s)

namespace AllBare

theorem isAbort_eq_false (h : ev.AllBare s e) : e.isAbort = false := by
  by_contra habort
  obtain ⟨_, _, _, _, rfl⟩ := Expr.eq_of_isAbort (by simpa using habort)
  rw [AllBare, Expr.names_apply, Expr.names_symbol] at h
  exact h.1.ne_abort rfl

theorem isCall_func (h : ev.AllBare s e) : e.isCall "Func" = false := by
  cases e with
  | number value | string text | symbol name held => rfl
  | apply head args held =>
      rw [AllBare, Expr.names_apply] at h
      by_contra hfunction
      exact (h.1.of_symbol? (by simpa [Expr.isCall] using hfunction)).ne_func rfl

theorem attributesOf_eq (h : ev.AllBare s head) : attributesOf s head = {} := by
  cases hname : head.symbol? with
  | none => rw [attributesOf, hname]
  | some name =>
      rw [attributesOf, hname]
      exact (h.of_symbol? hname).attributes

theorem resolve?_eq_none (h : ev.AllBare s e) (sharing : Sharing) :
    s.resolve? e sharing = none := by
  cases howner : e.owner? with
  | none => rw [Scopes.resolve?, howner]
  | some name => exact (h.of_owner? howner).resolve?_eq_none howner sharing

/-! ### A step -/

/-- The arguments come through, or the first node among them for which no level is left fails. -/
theorem returns_evaluateArgs? {evaluate? : Expr → EvalM (Option Expr)} {args : List Expr}
    (h : ∀ a ∈ args, ev.AllBare s a)
    (hargs : ∀ a ∈ args, Returns m (evaluate? a) (a.within? levels)) (index : Nat) :
    Returns m (evaluateArgs? evaluate? {} index args)
      (match (Expr.nodesAtAll levels args).head? with
        | some t => .error t.tooDeep
        | none => .ok none) := by
  induction args generalizing index with
  | nil => exact .pure _
  | cons e es ih =>
      rw [List.forall_mem_cons] at h hargs
      rw [evaluateArgs?, Expr.nodesAtAll, List.head?_append]
      refine hargs.1.bind ?_
      rw [Expr.within?]
      cases (Expr.nodesAt levels e).head? with
      | some t => exact .pure _
      | none =>
          rw [Option.map_none, Option.getD_none, if_neg (by simp [h.1.isAbort_eq_false])]
          refine (ih h.2 hargs.2 (index + 1)).bind ?_
          cases (Expr.nodesAtAll levels es).head? <;> exact .pure _

/-- Nothing applies to an application, so none is built. -/
theorem returns_reduceCall? {args : List Expr} (evaluate : Expr → EvalM Expr)
    (h : ev.AllBare m.scopes (.app head args)) :
    Returns m (ev.reduceCall? evaluate {} head args) none := by
  have hhead := (Expr.names_apply.mp h).1
  rw [reduceCall?]
  refine .unresolved_bind h.resolve?_eq_none ?_
  simp only [isCall_func hhead, Bool.false_eq_true, if_false]
  cases hname : head.symbol? with
  | none => exact .pure _
  | some name =>
      simp only [dispatch, (hhead.of_symbol? hname).operation]
      exact .pure _

/-- A step with an application hands it back, or fails with the first node below it for which no
level is left. -/
theorem returns_reduceApplied? {evaluate? : Expr → EvalM (Option Expr)} {args : List Expr}
    (h : ev.AllBare m.scopes (.app head args))
    (hargs : ∀ a ∈ args, Returns m (evaluate? a) (a.within? levels)) :
    Returns m (ev.reduceApplied? evaluate? head args (head.within? levels))
      (((Expr.app head args).within? (levels + 1)).map .plain) := by
  obtain ⟨hhead, hall⟩ := Expr.names_apply.mp h
  rw [Expr.within?, Expr.within?, Expr.nodesAt, List.head?_append]
  cases (Expr.nodesAt levels head).head? with
  | some t => exact .pure _
  | none =>
      rw [Option.map_none, reduceApplied?, Option.getD_none,
        if_neg (by simp [isAbort_eq_false hhead])]
      refine .scopes_bind ?_
      rw [attributesOf_eq hhead]
      refine (returns_evaluateArgs? hall hargs 0).bind ?_
      cases (Expr.nodesAtAll levels args).head? with
      | some t => exact .pure _
      | none => exact (returns_reduceCall? _ h).bind (.pure _)

/-! ### The walk -/

/-- The step that is taken if there is a level left is the last one. -/
theorem returns_settle? {reduce? : Expr → EvalM (Option Reduced)}
    (h : Returns m (reduce? e) ((e.within? levels).map .plain)) (remaining : Nat) :
    Returns m (settle? reduce? e remaining e) (e.within? levels) := by
  have hlast : (((e.within? levels).map Reduced.plain).getD (.plain e)).isActive e = false := by
    rw [Expr.within?]
    cases (Expr.nodesAt levels e).head? with
    | some t => exact Reduced.isActive_of_isAbort t.isAbort_tooDeep
    | none => exact Reduced.isActive_plain_self e
  have hadvance : Returns m (advance? reduce? e e) ((e.within? levels).map .plain) := by
    refine h.bind ?_
    simp only [hlast, Bool.false_and, Bool.false_eq_true, if_false]
    exact .pure _
  cases remaining with
  | zero | succ remaining =>
      rw [settle?]
      refine hadvance.bind ?_
      cases hwithin : e.within? levels with
      | none => exact .pure _
      | some v =>
          rw [hwithin] at hlast
          simp only [Option.map_some, Option.getD_some] at hlast
          simp only [Option.map_some, hlast, Bool.false_eq_true, if_false]
          exact .pure _

/-- **Evaluation walks through an expression,** and the first node for which no level is left ends
it. -/
theorem returns_evaluateWithin? (levels : Nat) (h : ev.AllBare m.scopes e) (he : e.Marked false) :
    Returns m (ev.evaluateWithin? levels e) (e.within? levels) := by
  induction levels generalizing m e with
  | zero =>
      rw [evaluateWithin?, if_neg (by simp [he.isHeld_eq])]
      intro m' hagree
      refine ⟨?_, hagree.scopes, hagree.depth, hagree.lastFresh, hagree.answers⟩
      change some (e.abort Failure.recursionLimit.message) = e.within? 0
      rw [Expr.abort, h.isAbort_eq_false, Expr.within?, Expr.nodesAt]
      rfl
  | succ levels ih =>
      rw [evaluateWithin?, if_neg (by simp [he.isHeld_eq])]
      have hbelow {e : Expr} (h : ev.AllBare m.scopes e) (he : e.Marked false) :
          Returns m.descend (ev.evaluateWithin? levels e) (e.within? levels) := ih h he
      refine .deeper (returns_settle? ?_ _)
      cases h with
      | number _ | string => exact .pure _
      | symbol hname =>
          exact .unresolved_bind (resolve?_eq_none (.symbol hname)) (.pure _)
      | @apply head args held hhead hargs =>
          obtain ⟨rfl, hehead, heargs⟩ := Expr.marked_apply.mp he
          exact (hbelow hhead hehead).bind (returns_reduceApplied? (.apply hhead hargs)
            fun a ha => hbelow (hargs a ha) (heargs a ha))

end AllBare

/-- **The recursion limit is exact.** Let nothing in an expression be held and let all its symbols be
bare. If it is less high than there are levels left, evaluation hands back the very node. Otherwise
it gives the failure of the first node that lies so many levels below the root. In both cases
definitions, depth and names drawn are left as they were. At depth zero, there are as many levels as
the limit says. -/
theorem recursion_limit_exact (limits : Limits) (groups : List Group) (e : Expr) (m : Machine) :
    let ev : Evaluator := ⟨limits, .ofGroups groups⟩
    let levels := limits.recursion - m.depth
    let result := (ev.evaluate? e).run m
    e.Marked false → ev.AllBare m.scopes e →
    (e.height < levels → result.1 = none) ∧
    (levels ≤ e.height → ∃ first later, Expr.nodesAt levels e = first :: later ∧
      result.1 = some (.call "Abort" [first, .string "Recursion limit hit"])) ∧
    ((ev.evaluate e).run m).1 = result.1.getD e ∧ Agree m result.2 := by
  intro ev levels result he hbare
  obtain ⟨hvalue, hagree⟩ := AllBare.returns_evaluateWithin? levels hbare he m (.refl m)
  refine ⟨fun hheight => ?_, fun hheight => ?_, rfl, hagree⟩
  · refine hvalue.trans ?_
    rw [Expr.within?, (Expr.nodesAt_eq_nil_iff levels e).mpr hheight]
    rfl
  · have hne : Expr.nodesAt levels e ≠ [] :=
      mt (Expr.nodesAt_eq_nil_iff levels e).mp (Nat.not_lt.mpr hheight)
    obtain ⟨first, later, hnodes⟩ := List.exists_cons_of_ne_nil hne
    refine ⟨first, later, hnodes, hvalue.trans ?_⟩
    rw [Expr.within?, hnodes]
    rfl

/-- Four levels are enough for the arguments of the head that is an application, three are not. -/
theorem recursion_limit_exact_apply :
    let ev (limit : Nat) : Evaluator := ⟨⟨4, limit⟩, .ofGroups []⟩
    let m : Machine := { scopes := .initial }
    let e : Expr := .call "f" [.sym "x", .app (.call "g" [.sym "x"]) [.sym "f"]]
    let node? (limit : Nat) : Option Expr := (((ev limit).evaluate? e).run m).1
    e.Marked false ∧ (∀ limit, (ev limit).AllBare m.scopes e) ∧ e.height = 3 ∧ node? 4 = none ∧
    node? 3 = some (.call "Abort" [.sym "g", .string "Recursion limit hit"]) ∧
    node? 2 = some (.call "Abort" [.call "g" [.sym "x"], .string "Recursion limit hit"]) := by
  intro ev m e node?
  have hmarked : e.Marked false := by simp [e]
  have hbare (limit : Nat) : (ev limit).AllBare m.scopes e := by
    have hname (name : String) (h : name ∈ ["f", "g", "x"]) : (ev limit).IsBare m.scopes name := by
      simp only [List.mem_cons, List.not_mem_nil, or_false] at h
      obtain rfl | rfl | rfl := h
      all_goals
        refine ⟨⟨by decide +kernel, by with_unfolding_all rfl⟩, ?_, ?_, ?_⟩ <;> decide +kernel
    simp [e, AllBare, hname]
  have hresult (limit : Nat) := recursion_limit_exact ⟨4, limit⟩ [] e m hmarked (hbare limit)
  refine ⟨hmarked, hbare, rfl, (hresult 4).1 (by decide), ?_, ?_⟩
  · obtain ⟨first, later, hnodes, hvalue⟩ := (hresult 3).2.1 (by decide)
    have hlevel : Expr.nodesAt 3 e = [.sym "g", .sym "x"] := rfl
    obtain ⟨rfl, -⟩ := List.cons.inj (hlevel.symm.trans hnodes)
    exact hvalue
  · obtain ⟨first, later, hnodes, hvalue⟩ := (hresult 2).2.1 (by decide)
    have hlevel : Expr.nodesAt 2 e = [.call "g" [.sym "x"], .sym "f"] := rfl
    obtain ⟨rfl, -⟩ := List.cons.inj (hlevel.symm.trans hnodes)
    exact hvalue

end Evaluator

end Reduct
