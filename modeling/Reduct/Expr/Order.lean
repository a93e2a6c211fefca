import Reduct.Expr.Render

/-!
# Equality and order of expressions

Two expressions are equal when they read the same. The test walks both trees and writes
nothing out, except where an atom of one kind faces something of another kind: a symbol may be
spelled like a number, a string literal or an application. Numbers are the same when their
bits are, so the two zeros differ and the value that is no number equals itself. Hold marks
do not count. Expressions are ordered by their text, character by character, and hashed by it.
-/

namespace Reduct.Expr

mutual

/-- Do two expressions read the same? -/
def same : Expr → Expr → Bool
  | .number a, .number b => a.toBits == b.toBits
  | .string a, .string b => a == b
  | .symbol a _, .symbol b _ => a == b
  | .apply f as _, .apply g bs _ => f.same g && sameAll as bs
  | .apply f as held, .symbol name _ =>
      name.toList.getLast? == some ']' && (Expr.apply f as held).chars == name.toList
  | .symbol name _, .apply f as held =>
      name.toList.getLast? == some ']' && name.toList == (Expr.apply f as held).chars
  | .apply .., _ => false
  | _, .apply .. => false
  | a, b => a.chars == b.chars

/-- Do two lists of expressions have the same length and read the same one by one? -/
def sameAll : List Expr → List Expr → Bool
  | [], [] => true
  | a :: as, b :: bs => a.same b && sameAll as bs
  | _, _ => false

end

mutual

/-- Every expression is the same as itself. -/
theorem same_refl : ∀ e : Expr, e.same e
  | .apply f as _ => by rw [same, same_refl f, sameAll_refl as]; rfl
  | .number _ | .string _ | .symbol .. => by simp [same]

theorem sameAll_refl : ∀ es : List Expr, sameAll es es
  | [] => rfl
  | e :: es => by rw [sameAll, same_refl e, sameAll_refl es]; rfl

end

instance : BEq Expr := ⟨same⟩

/-- The order of expressions: that of their texts. -/
def order (a b : Expr) : Ordering :=
  if a.same b then .eq else compare a.render b.render

instance : Ord Expr := ⟨order⟩

/-- The state of a hasher after an expression: what it takes in is the text, whatever it makes of
texts. -/
def hashInto {σ : Type} (takeIn : σ → String → σ) (state : σ) (e : Expr) : σ :=
  takeIn state e.render

/-- The expressions in order; equal ones keep their places. -/
def sort (es : List Expr) : List Expr := es.mergeSort fun a b => a.order b != .gt

/-- The expressions ordered by their texts, each written out once; those with equal texts keep
their places. -/
def sortByText (es : List Expr) : List Expr :=
  ((es.map fun e => (e.render, e)).mergeSort fun a b => decide (a.1 ≤ b.1)).map Prod.snd

/-- Are texts in ascending order? -/
def ascend : List String → Bool
  | a :: b :: texts => decide (a ≤ b) && ascend (b :: texts)
  | _ => true

end Reduct.Expr
