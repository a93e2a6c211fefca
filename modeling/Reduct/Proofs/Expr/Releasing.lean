import Reduct.Proofs.Expr.Sharing

/-!
# Releasing

Clearing the marks of an expression puts in nothing that was there before. So it is certain which
nodes are handed back: those without a mark in them, and an expression without marks comes back as
the very expression it was (`Expr.releaseHold?_eq_none_iff`).
-/

namespace Reduct

namespace Expr

mutual

/-- Clears the marks. `none` when there are none. -/
def releaseHold? : Expr → Option Expr
  | .number _ => none
  | .string _ => none
  | .symbol name held => if held then some (.sym name) else none
  | .apply head args held =>
    if held then some (.app (head.releaseHold?.getD head) ((releaseHolds? args).getD args))
    else rebuilt? head args head.releaseHold? (releaseHolds? args)

/-- Clears the marks of each expression. -/
def releaseHolds? : List Expr → Option (List Expr)
  | [] => none
  | e :: es => rebuiltArgs? e es e.releaseHold? (releaseHolds? es)

end

mutual

theorem getD_releaseHold? : ∀ e : Expr, e.releaseHold?.getD e = e.releaseHold
  | .number _ | .string _ => rfl
  | .symbol _ held => by cases held <;> rfl
  | .apply head args held => by
      have hhead := getD_releaseHold? head
      have hargs := getD_releaseHolds? args
      cases held with
      | true => rw [releaseHold?, if_pos rfl, Option.getD_some, hhead, hargs, releaseHold]
      | false => rw [releaseHold?, if_neg (by simp), getD_rebuilt?, hhead, hargs, releaseHold]; rfl

theorem getD_releaseHolds? : ∀ es : List Expr, (releaseHolds? es).getD es = releaseHolds es
  | [] => rfl
  | e :: es => by
      rw [releaseHolds?, getD_rebuiltArgs?, getD_releaseHold? e, getD_releaseHolds? es,
        releaseHolds]

end

mutual

/-- **The expression is handed back exactly if nothing in it is marked.** -/
theorem releaseHold?_eq_none_iff : ∀ e : Expr, e.releaseHold? = none ↔ e.Marked false
  | .number _ => iff_of_true rfl .number
  | .string _ => iff_of_true rfl .string
  | .symbol _ held => by cases held <;> simp [releaseHold?]
  | .apply head args held => by
      rw [marked_apply, ← releaseHold?_eq_none_iff head, ← releaseHolds?_eq_none_iff args]
      cases held with
      | true => simp [releaseHold?]
      | false => rw [releaseHold?, if_neg (by simp), rebuilt?_eq_none_iff, and_iff_right rfl]

theorem releaseHolds?_eq_none_iff : ∀ es : List Expr,
    releaseHolds? es = none ↔ ∀ e ∈ es, e.Marked false
  | [] => iff_of_true rfl (by simp)
  | e :: es => by
      rw [releaseHolds?, rebuiltArgs?_eq_none_iff, releaseHold?_eq_none_iff e,
        releaseHolds?_eq_none_iff es, List.forall_mem_cons]

end

mutual

/-- Clearing the marks leaves none. -/
theorem marked_releaseHold : ∀ e : Expr, e.releaseHold.Marked false
  | .number _ => .number
  | .string _ => .string
  | .symbol .. => .symbol
  | .apply head args _ => .apply (marked_releaseHold head) (marked_releaseHolds args)

theorem marked_releaseHolds : ∀ es : List Expr, ∀ e ∈ releaseHolds es, e.Marked false
  | [] => by simp [releaseHolds]
  | e :: es => List.forall_mem_cons.mpr ⟨marked_releaseHold e, marked_releaseHolds es⟩

end

theorem Marked.everywhere {held : Bool} {e : Expr} (h : e.Marked held) :
    e.Everywhere (Marked held) := by
  induction h with
  | number => exact .of_atom rfl .number
  | string => exact .of_atom rfl .string
  | symbol => exact .of_atom rfl .symbol
  | apply hhead hargs ihhead ihargs => exact .of_apply (.apply hhead hargs) ihhead ihargs

mutual

theorem marked_of_everywhere : ∀ {e : Expr}, e.Everywhere (·.isHeld = false) → e.Marked false
  | .number _, _ => .number
  | .string _, _ => .string
  | .symbol .., h => marked_symbol.mpr h.self
  | .apply .., h =>
      marked_apply.mpr ⟨h.self, marked_of_everywhere h.head, marked_of_everywhereAll fun _ => h.arg⟩

theorem marked_of_everywhereAll : ∀ {es : List Expr},
    (∀ e ∈ es, e.Everywhere (·.isHeld = false)) → ∀ e ∈ es, e.Marked false
  | [], _ => by simp
  | e :: es, h => List.forall_mem_cons.mpr
      ⟨marked_of_everywhere (h e (by simp)), marked_of_everywhereAll fun e he => h e (by simp [he])⟩

end

/-- An expression without marks is one in which no node is held. -/
theorem marked_false_iff {e : Expr} : e.Marked false ↔ e.Everywhere (·.isHeld = false) :=
  ⟨fun h path d hd => (h.everywhere path d hd).isHeld_eq, marked_of_everywhere⟩

end Expr

end Reduct
