import Reduct.Expr.Change
import Reduct.Expr.Order
import Reduct.Proofs.Expr.Atoms

/-!
# Clearing hold marks

Two expressions are alike when they differ at most in hold marks, that is, when clearing all marks
makes one expression of both (`Expr.Alike`). What is said about a function is that it commutes with
clearing the marks: what it makes of cleared arguments is what it makes of the arguments, cleared.
From alike arguments it then gives alike results.

Text, equality and order do not see marks at all. A pass does set them: a node that is left alone
keeps its mark, one that is built anew has none (`Expr.rebuilt?`). But whether a node is built anew
depends on the passes below it, and these do not depend on marks either.

An expression can have one mark everywhere (`Expr.Marked`): marking it does that, and clearing the
marks of one that has none leaves it as it is.
-/

namespace Reduct.Expr

/-- The expressions differ at most in hold marks. -/
def Alike (a b : Expr) : Prop := a.releaseHold = b.releaseHold

theorem alike_def {a b : Expr} : a.Alike b ↔ a.releaseHold = b.releaseHold := Iff.rfl

/-! ### Text, equality and order -/

mutual

theorem chars_releaseHold : ∀ e : Expr, e.releaseHold.chars = e.chars
  | .apply head args _ => by
      rw [releaseHold, chars, chars, chars_releaseHold head, argChars_releaseHolds args]
  | .number _ | .string _ | .symbol .. => rfl

theorem argChars_releaseHolds : ∀ es : List Expr, argChars (releaseHolds es) = argChars es
  | [] => rfl
  | [e] => chars_releaseHold e
  | e :: e' :: es => by
      have hne : releaseHolds (e' :: es) ≠ [] := List.cons_ne_nil _ _
      rw [releaseHolds, argChars_cons hne, argChars_cons (List.cons_ne_nil e' es),
        chars_releaseHold e, argChars_releaseHolds (e' :: es)]

end

theorem render_releaseHold (e : Expr) : e.releaseHold.render = e.render :=
  congrArg String.ofList (chars_releaseHold e)

mutual

/-- **The test for equality does not see marks.** -/
theorem same_releaseHold : ∀ a b : Expr, a.releaseHold.same b.releaseHold = a.same b
  | .apply f as _, .apply g bs _ => by
      rw [releaseHold, releaseHold, same, same, same_releaseHold f g, sameAll_releaseHolds as bs]
  | .apply f as held, .symbol name _ => by
      have htext := chars_releaseHold (.apply f as held)
      rw [releaseHold] at htext
      rw [releaseHold, releaseHold, same, same, htext]
  | .symbol name _, .apply f as held => by
      have htext := chars_releaseHold (.apply f as held)
      rw [releaseHold] at htext
      rw [releaseHold, releaseHold, same, same, htext]
  | .apply .., .number _ | .apply .., .string _ | .number _, .apply .. | .string _, .apply .. => by
      simp [releaseHold, same]
  | .number _, .number _ | .number _, .string _ | .number _, .symbol .. | .string _, .number _
  | .string _, .string _ | .string _, .symbol .. | .symbol .., .number _ | .symbol .., .string _
  | .symbol .., .symbol .. => rfl

theorem sameAll_releaseHolds : ∀ as bs : List Expr,
    sameAll (releaseHolds as) (releaseHolds bs) = sameAll as bs
  | [], [] | [], _ :: _ | _ :: _, [] => rfl
  | a :: as, b :: bs => by
      rw [releaseHolds, releaseHolds, sameAll, sameAll, same_releaseHold a b,
        sameAll_releaseHolds as bs]

end

/-- What differs in marks only is equal. -/
theorem Alike.same {a b : Expr} (h : a.Alike b) : a.same b := by
  rw [← same_releaseHold, alike_def.mp h]
  exact same_refl _

theorem order_releaseHold (a b : Expr) : a.releaseHold.order b.releaseHold = a.order b := by
  rw [order, order, same_releaseHold, render_releaseHold, render_releaseHold]

/-! ### Passes -/

theorem getD_releaseHold (e : Expr) (e' : Option Expr) :
    (e'.map releaseHold).getD e.releaseHold = (e'.getD e).releaseHold := by
  cases e' <;> rfl

/-! ### The same mark everywhere -/

/-- Every symbol and every application in the expression, at any depth, has this mark. -/
inductive Marked (held : Bool) : Expr → Prop
  | number {value : Float} : Marked held (.number value)
  | string {text : String} : Marked held (.string text)
  | symbol {name : String} : Marked held (.symbol name held)
  | apply {head : Expr} {args : List Expr} :
      Marked held head → (∀ a ∈ args, Marked held a) → Marked held (.apply head args held)

section Marked

variable {held : Bool} {e : Expr}

@[simp] theorem marked_symbol {name : String} {b : Bool} :
    (symbol name b).Marked held ↔ b = held := by
  refine ⟨fun h => ?_, fun h => h ▸ .symbol⟩
  cases h
  rfl

@[simp] theorem marked_apply {head : Expr} {args : List Expr} {b : Bool} :
    (apply head args b).Marked held ↔
      b = held ∧ head.Marked held ∧ ∀ a ∈ args, a.Marked held := by
  constructor
  · intro h
    cases h with
    | apply hhead hargs => exact ⟨rfl, hhead, hargs⟩
  · rintro ⟨rfl, hhead, hargs⟩
    exact .apply hhead hargs

mutual

/-- Holding an expression marks all of it. -/
theorem marked_holdForm : ∀ e : Expr, e.holdForm.Marked true
  | .number _ => .number
  | .string _ => .string
  | .symbol .. => .symbol
  | .apply head args _ => .apply (marked_holdForm head) (marked_holdForms args)

theorem marked_holdForms : ∀ es : List Expr, ∀ e ∈ holdForms es, e.Marked true
  | [], _, h => absurd h (List.not_mem_nil)
  | e :: es, e', h => by
      rw [holdForms, List.mem_cons] at h
      obtain rfl | h := h
      · exact marked_holdForm e
      · exact marked_holdForms es e' h

end

mutual

/-- It changes nothing else. -/
theorem releaseHold_holdForm : ∀ e : Expr, e.holdForm.releaseHold = e.releaseHold
  | .number _ | .string _ | .symbol .. => rfl
  | .apply head args _ => by
      rw [holdForm, releaseHold, releaseHold, releaseHold_holdForm head,
        releaseHolds_holdForms args]

theorem releaseHolds_holdForms : ∀ es : List Expr, releaseHolds (holdForms es) = releaseHolds es
  | [] => rfl
  | e :: es => by
      rw [holdForms, releaseHolds, releaseHolds, releaseHold_holdForm e, releaseHolds_holdForms es]

end

/-- Whether an expression is a failure does not show in its marks. -/
theorem isAbort_releaseHold : ∀ e : Expr, e.releaseHold.isAbort = e.isAbort
  | .apply (.symbol name _) [_, .string _] _ => by
      by_cases h : name = "Abort"
      · subst h
        rfl
      · simp [releaseHold, releaseHolds, isAbort, abortMessage?, h]
  | .apply (.symbol ..) [_, .number _] _ | .apply (.symbol ..) [_, .symbol ..] _
  | .apply (.symbol ..) [_, .apply ..] _ | .apply (.symbol ..) [] _ | .apply (.symbol ..) [_] _
  | .apply (.symbol ..) (_ :: _ :: _ :: _) _ => by
      simp [releaseHold, releaseHolds, isAbort, abortMessage?]
  | .apply (.number _) _ _ | .apply (.string _) _ _ | .apply (.apply ..) _ _ => by
      simp [releaseHold, isAbort, abortMessage?]
  | .number _ | .string _ | .symbol .. => rfl

theorem isAbort_holdForm (e : Expr) : e.holdForm.isAbort = e.isAbort := by
  rw [← isAbort_releaseHold, releaseHold_holdForm, isAbort_releaseHold]

/-- There is nothing to clear in what is not marked anywhere. -/
theorem Marked.releaseHold_eq (h : e.Marked false) : e.releaseHold = e := by
  induction h with
  | number | string | symbol => rfl
  | apply _ _ ihhead ihargs =>
      rw [releaseHold, ihhead, releaseHolds_eq_map, List.map_congr_left ihargs, List.map_id']

theorem Marked.isHeld_eq (h : e.Marked false) : e.isHeld = false := by
  cases h <;> rfl

end Marked

end Reduct.Expr
