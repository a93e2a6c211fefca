import Reduct.Expr.Render

/-!
# The atoms of an expression

What the claims about expressions ask of the atoms in them: a condition on the numbers and one
on the symbol names, wherever in the tree they stand. The predicate is inductive, so that an
induction over it is an induction over the expression with the conditions at hand, and the
arguments of an application come with one hypothesis each.
-/

namespace Reduct.Expr

/-- Every number in the expression satisfies `N` and every symbol name satisfies `S`. -/
inductive Atoms (N : Float → Prop) (S : String → Prop) : Expr → Prop
  | number {value : Float} : N value → Atoms N S (.number value)
  | string {text : String} : Atoms N S (.string text)
  | symbol {name : String} {held : Bool} : S name → Atoms N S (.symbol name held)
  | apply {head : Expr} {args : List Expr} {held : Bool} :
      Atoms N S head → (∀ a ∈ args, Atoms N S a) → Atoms N S (.apply head args held)

namespace Atoms

variable {N : Float → Prop} {S : String → Prop} {head e : Expr} {args : List Expr} {held : Bool}

theorem head_of_apply (h : Atoms N S (.apply head args held)) : Atoms N S head := by
  cases h with
  | apply hhead _ => exact hhead

theorem of_mem_args (h : Atoms N S (.apply head args held)) (he : e ∈ args) : Atoms N S e := by
  cases h with
  | apply _ hargs => exact hargs e he

end Atoms

/-! ### The text of several arguments -/

/-- The first argument is followed by a comma and a space if there are others. -/
theorem argChars_cons {e : Expr} {es : List Expr} (h : es ≠ []) :
    argChars (e :: es) = e.chars ++ ',' :: ' ' :: argChars es := by
  cases es with
  | nil => exact absurd rfl h
  | cons _ _ => rfl

/-- The last argument comes after a comma and a space if there are others. -/
theorem argChars_concat {e : Expr} {es : List Expr} (h : es ≠ []) :
    argChars (es ++ [e]) = argChars es ++ ',' :: ' ' :: e.chars := by
  induction es with
  | nil => exact absurd rfl h
  | cons d ds ih =>
      rw [List.cons_append, argChars_cons (by simp)]
      by_cases hds : ds = []
      · subst hds
        rfl
      · rw [ih hds, argChars_cons hds]
        simp

end Reduct.Expr
