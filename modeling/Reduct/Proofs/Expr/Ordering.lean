import Reduct.Proofs.Expr.Reading

/-!
# Equality, order and text

`same` and `order` walk trees and write out texts only where they must. They agree with the
texts all the same. Expressions that are the same have one text, and the order of expressions is
that of their texts by code points, so it is a total preorder whose ties are equal texts
(`order_eq_compare`). On readable expressions the converse holds too: equal texts mean the same
tree (`same_iff`), and then the test, a tie in the order and the hash are three names of one
equivalence.
-/

namespace Reduct.Expr

/-- The code points of the text of an expression. -/
def codePoints (e : Expr) : List Nat := e.chars.map Char.toNat

theorem render_eq_iff {a b : Expr} : a.render = b.render ↔ a.chars = b.chars :=
  String.ofList_inj

/-- The test for equal texts is exact in one direction for every expression. -/
theorem render_eq_of_same {a b : Expr} (h : a.same b) : a.render = b.render :=
  render_eq_iff.mpr (chars_eq_of_same h)

/-! ### The order of code points -/

theorem lt_iff_toNat_lt {c d : Char} : c < d ↔ c.toNat < d.toNat := Iff.rfl

/-- Characters are ordered as their code points are, and so are lists of them. -/
theorem chars_lt_iff {cs ds : List Char} : cs < ds ↔ cs.map Char.toNat < ds.map Char.toNat := by
  induction cs generalizing ds with
  | nil => cases ds <;> simp
  | cons c cs ih =>
      cases ds with
      | nil => simp
      | cons d ds =>
          rw [List.map_cons, List.map_cons, List.cons_lt_cons_iff, List.cons_lt_cons_iff,
            lt_iff_toNat_lt, ih, Char.toNat_inj]

theorem render_lt_iff {a b : Expr} : a.render < b.render ↔ a.codePoints < b.codePoints := by
  rw [String.lt_iff_toList_lt, render, render, String.toList_ofList, String.toList_ofList,
    chars_lt_iff]
  rfl

/-! ### The order of expressions -/

/-- The order of expressions is that of their texts. -/
theorem order_eq_compare (a b : Expr) : a.order b = compare a.render b.render := by
  rw [order]
  split
  next h => rw [render_eq_of_same h, Std.ReflOrd.compare_self]
  next => rfl

theorem order_eq_lt_iff {a b : Expr} : a.order b = .lt ↔ a.codePoints < b.codePoints := by
  rw [order_eq_compare, compare_lt_iff_lt, render_lt_iff]

theorem order_eq_eq_iff {a b : Expr} : a.order b = .eq ↔ a.render = b.render := by
  rw [order_eq_compare, Std.compare_eq_iff_eq]

theorem order_swap (a b : Expr) : a.order b = (b.order a).swap := by
  rw [order_eq_compare, order_eq_compare, ← Std.OrientedOrd.eq_swap]

theorem order_eq_gt_iff {a b : Expr} : a.order b = .gt ↔ b.codePoints < a.codePoints := by
  rw [order_swap, Ordering.swap_eq_gt, order_eq_lt_iff]

theorem order_trans {a b c : Expr} (hab : (a.order b).isLE) (hbc : (b.order c).isLE) :
    (a.order c).isLE := by
  rw [order_eq_compare] at hab hbc ⊢
  exact Std.TransOrd.isLE_trans hab hbc

theorem order_total (a b : Expr) : (a.order b).isLE ∨ (b.order a).isLE := by
  rw [order_swap b a, Ordering.isLE_swap]
  cases a.order b <;> simp

instance : Std.TransOrd Expr where
  eq_swap := order_swap _ _
  isLE_trans := order_trans

/-! ### Expressions ordered by their texts -/

/-- The texts ascend. -/
abbrev Ascending (es : List Expr) : Prop := es.Pairwise fun a b => a.render ≤ b.render

/-- The check of neighbours finds out whether texts ascend. -/
theorem ascend_iff {texts : List String} : ascend texts ↔ texts.Pairwise (· ≤ ·) := by
  induction texts with
  | nil => simp [ascend]
  | cons a texts ih =>
      cases texts with
      | nil => simp [ascend]
      | cons b texts =>
          rw [ascend, Bool.and_eq_true, decide_eq_true_eq, ih, List.pairwise_cons (a := a)]
          refine and_congr_left fun h => ⟨fun hab c hc => ?_, fun hall => hall b (.head _)⟩
          obtain rfl | hc := List.mem_cons.mp hc
          · exact hab
          · exact String.le_trans hab (List.rel_of_pairwise_cons h hc)

theorem ascend_map_render_iff {es : List Expr} : ascend (es.map render) ↔ Ascending es := by
  rw [ascend_iff, List.pairwise_map]

/-- To write each expression out once is to compare their texts. -/
theorem sortByText_eq_mergeSort (es : List Expr) :
    sortByText es = es.mergeSort fun a b => decide (a.render ≤ b.render) := by
  have hmap := List.map_mergeSort (f := fun e : Expr => (e.render, e)) (l := es)
    (s := fun a b => decide (a.1 ≤ b.1)) fun _ _ _ _ => rfl
  rw [sortByText, ← hmap, List.map_map]
  exact List.map_id _

theorem sortByText_perm (es : List Expr) : (sortByText es).Perm es := by
  rw [sortByText_eq_mergeSort]
  exact List.mergeSort_perm es _

theorem ascending_sortByText (es : List Expr) : Ascending (sortByText es) := by
  rw [sortByText_eq_mergeSort]
  refine (List.pairwise_mergeSort ?_ ?_ es).imp of_decide_eq_true
  · simpa using fun _ _ _ => String.le_trans
  · simpa using fun a b : Expr => String.le_total a.render b.render

theorem sortByText_of_ascending {es : List Expr} (h : Ascending es) : sortByText es = es := by
  rw [sortByText_eq_mergeSort]
  exact List.mergeSort_of_pairwise (h.imp decide_eq_true)

/-! ### Readable expressions -/

theorem same_iff_render {a b : Expr} (ha : a.Readable) (hb : b.Readable) :
    a.same b ↔ a.render = b.render := by
  rw [same_iff ha hb, render_eq_iff]

/-- On readable expressions the test is an equivalence. -/
theorem same_equivalence :
    Equivalence fun a b : { e : Expr // e.Readable } => (a.1.same b.1 : Prop) where
  refl a := same_refl a.1
  symm {a b} h := by rwa [same_comm]
  trans {a b c} hab hbc := by rwa [same_congr_left a.2 b.2 c.2 hab]

/-- Readable expressions are the same when no hasher tells them apart. -/
theorem same_iff_hashInto {a b : Expr} (ha : a.Readable) (hb : b.Readable) :
    a.same b ↔ ∀ (σ : Type) (takeIn : σ → String → σ) (state : σ),
      a.hashInto takeIn state = b.hashInto takeIn state := by
  rw [same_iff_render ha hb]
  constructor
  · intro h σ takeIn state
    rw [hashInto, h, hashInto]
  · intro h
    -- The hasher that keeps the text tells different texts apart.
    exact h String (fun _ text => text) ""

/-- **Equality, order, hash and text agree.** Expressions that are the same have the same text;
the order of any two is that of the code points of their texts, a total preorder whose ties are
equal texts. Readable expressions with the same text are the same, and on them the test is an
equivalence, is what the order calls equal, and is what no hasher tells apart. -/
theorem same_order_render :
    (∀ a b : Expr, a.same b → a.render = b.render) ∧
    (∀ a b : Expr, (a.order b = .lt ↔ a.codePoints < b.codePoints) ∧
      (a.order b = .eq ↔ a.render = b.render) ∧
      (a.order b = .gt ↔ b.codePoints < a.codePoints)) ∧
    (∀ a : Expr, a.order a = .eq) ∧
    (∀ a b c : Expr, (a.order b).isLE → (b.order c).isLE → (a.order c).isLE) ∧
    (∀ a b : Expr, (a.order b).isLE ∨ (b.order a).isLE) ∧
    Equivalence (fun a b : { e : Expr // e.Readable } => (a.1.same b.1 : Prop)) ∧
    (∀ a b : Expr, a.Readable → b.Readable →
      (a.render = b.render → a.same b) ∧ (a.same b ↔ a.order b = .eq) ∧
      (a.same b ↔ ∀ (σ : Type) (takeIn : σ → String → σ) (state : σ),
        a.hashInto takeIn state = b.hashInto takeIn state)) := by
  refine ⟨fun a b => render_eq_of_same,
    fun a b => ⟨order_eq_lt_iff, order_eq_eq_iff, order_eq_gt_iff⟩,
    fun a => order_eq_eq_iff.mpr rfl, fun a b c => order_trans, order_total, same_equivalence, ?_⟩
  intro a b ha hb
  refine ⟨(same_iff_render ha hb).mpr, ?_, same_iff_hashInto ha hb⟩
  rw [same_iff_render ha hb, order_eq_eq_iff]

/-- Hold marks separate no expressions: not in the test, the order or the hash. -/
theorem same_order_render_held :
    let e := call "f" [sym "x", .string "]"]
    e.Readable ∧ e.holdForm.Readable ∧ e.order e.holdForm = .eq ∧ e.same e.holdForm := by
  have hx (held : Bool) : Readable (.symbol "x" held) := .symbol (by decide)
  have hf (held : Bool) : Readable (.symbol "f" held) := .symbol (by decide)
  have he (held : Bool) :
      Readable (.apply (.symbol "f" held) [.symbol "x" held, .string "]"] held) := by
    refine .apply (hf held) fun a ha => ?_
    rcases List.mem_pair.mp ha with rfl | rfl
    · exact hx held
    · exact .string
  obtain ⟨-, -, -, -, -, -, hreadable⟩ := same_order_render
  obtain ⟨hsame, htie, -⟩ := hreadable _ _ (he false) (he true)
  exact ⟨he false, he true, htie.mp (hsame rfl), hsame rfl⟩

end Reduct.Expr
