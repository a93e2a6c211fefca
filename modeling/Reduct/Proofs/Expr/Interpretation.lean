import Mathlib.Data.List.Basic
import Reduct.Expr.Basic

/-!
# Reading expressions

What an expression is worth follows from what some expressions are worth as a whole and from what
the applications of some symbols make of the values of their arguments (`Interpretation`).

The operations that are read in this way compute with the literals among their arguments and leave
the other arguments as they are. These have the values that an assignment gives them, whatever
they are, and nothing else has (`Assignment.interpretation`). So the call that is left after an
operation is no argument of the operation, and is read by its own arguments.
-/

namespace Reduct

/-- Values for the expressions in a list, and for no others. -/
structure Assignment (α : Type*) (es : List Expr) where
  value? : Expr → Option α
  isSome_iff : ∀ e, (value? e).isSome ↔ e ∈ es

/-- What expressions are worth. -/
structure Interpretation (α : Type*) where
  /-- The value of an expression that is taken as a whole. -/
  whole? : Expr → Option α
  /-- What an application of a symbol makes of the values of its arguments. -/
  call? : String → List α → Option α

namespace Interpretation

variable {α : Type*}

mutual

/-- The value of an expression. -/
def read? (I : Interpretation α) : Expr → Option α
  | .apply head args held =>
    (I.whole? (.apply head args held)).or
      (head.symbol?.bind fun name => (I.readAll? args).bind (I.call? name))
  | e => I.whole? e

/-- The values of all expressions. -/
def readAll? (I : Interpretation α) : List Expr → Option (List α)
  | [] => some []
  | e :: es => (I.read? e).bind fun value => (I.readAll? es).map (value :: ·)

end

mutual

/-- The expressions that are taken as a whole where an expression is read, from left to right. -/
def wholes (I : Interpretation α) : Expr → List Expr
  | .apply head args held =>
    if (I.whole? (.apply head args held)).isSome then [.apply head args held]
    else I.wholesAll args
  | e => if (I.whole? e).isSome then [e] else []

/-- `wholes` of each expression. -/
def wholesAll (I : Interpretation α) : List Expr → List Expr
  | [] => []
  | e :: es => I.wholes e ++ I.wholesAll es

end

variable {I : Interpretation α} {e : Expr} {args es : List Expr} {name : String} {value : α}
  {f : Expr → α}

/-! ### Wholes -/

theorem read?_of_whole? (h : I.whole? e = some value) : I.read? e = some value := by
  cases e with
  | apply head args held => rw [read?, h, Option.some_or]
  | number | string | symbol => simpa [read?] using h

theorem wholes_of_whole? (h : I.whole? e = some value) : I.wholes e = [e] := by
  cases e with
  | apply head args held => rw [wholes, if_pos (by simp [h])]
  | number | string | symbol => simp [wholes, h]

theorem wholesAll_of_whole? (h : ∀ e ∈ es, I.whole? e = some (f e)) : I.wholesAll es = es := by
  induction es with
  | nil => rfl
  | cons e es ih =>
      obtain ⟨he, hes⟩ := List.forall_mem_cons.mp h
      rw [wholesAll, wholes_of_whole? he, ih hes, List.singleton_append]

/-! ### Calls -/

theorem readAll?_eq (h : ∀ e ∈ es, I.read? e = some (f e)) : I.readAll? es = some (es.map f) := by
  induction es with
  | nil => rfl
  | cons e es ih =>
      obtain ⟨he, hes⟩ := List.forall_mem_cons.mp h
      rw [readAll?, he, ih hes]
      rfl

theorem read?_call (hwhole : I.whole? (.call name args) = none)
    (hargs : ∀ e ∈ args, I.read? e = some (f e)) :
    I.read? (.call name args) = I.call? name (args.map f) := by
  rw [read?, hwhole, readAll?_eq hargs]
  rfl

theorem wholes_call (hwhole : I.whole? (.call name args) = none) :
    I.wholes (.call name args) = I.wholesAll args := by
  rw [wholes, hwhole, if_neg (by simp)]

end Interpretation

/-! ### A call is none of its parts -/

theorem Expr.sizeOf_lt_call {e : Expr} {args : List Expr} (h : e ∈ args) (name : String) :
    sizeOf e < sizeOf (Expr.call name args) := by
  have := List.sizeOf_lt_of_mem h
  simp only [Expr.apply.sizeOf_spec]
  omega

theorem Expr.call_not_mem (name : String) (args : List Expr) : Expr.call name args ∉ args :=
  fun h => Nat.lt_irrefl _ (sizeOf_lt_call h name)

/-! ### Literals and the other arguments -/

namespace Assignment

variable {α : Type*} {literal? : Expr → Option α} {call? : String → List α → Option α}
  {args : List Expr} {e : Expr}

/-- Literals have their own values, and the expressions in the list the values assigned. -/
def interpretation {es : List Expr} (a : Assignment α es) (literal? : Expr → Option α)
    (call? : String → List α → Option α) : Interpretation α where
  whole? e := (literal? e).or (a.value? e)
  call? := call?

theorem whole?_interpretation {es : List Expr} (a : Assignment α es) :
    (a.interpretation literal? call?).whole? e = (literal? e).or (a.value? e) := rfl

/-- What is neither a literal nor in the list is not taken as a whole. -/
theorem whole?_eq_none {es : List Expr} (a : Assignment α es) (hliteral : literal? e = none)
    (he : e ∉ es) : (a.interpretation literal? call?).whole? e = none := by
  have hvalue := mt (a.isSome_iff e).mp he
  rw [whole?_interpretation, hliteral, Option.none_or]
  simpa using hvalue

variable [Inhabited α]

/-- The value of an expression that is taken as a whole. -/
def value {es : List Expr} (a : Assignment α es) (literal? : Expr → Option α) (e : Expr) : α :=
  ((literal? e).or (a.value? e)).getD default

theorem value_of_literal {es : List Expr} (a : Assignment α es) {value : α}
    (h : literal? e = some value) : a.value literal? e = value := by
  rw [Assignment.value, h]
  rfl

/-- Every argument is taken as a whole. -/
theorem whole?_of_mem (a : Assignment α (args.filter fun e => (literal? e).isNone))
    (he : e ∈ args) :
    (a.interpretation literal? call?).whole? e = some (a.value literal? e) := by
  rw [whole?_interpretation, Assignment.value]
  cases hliteral : literal? e with
  | some value => rfl
  | none =>
      have hvalue := (a.isSome_iff e).mpr (List.mem_filter.mpr ⟨he, by simp [hliteral]⟩)
      obtain ⟨value, hvalue⟩ := Option.isSome_iff_exists.mp hvalue
      simp [hvalue]

end Assignment

/-! ### Folding with the literals apart -/

/-- Folding the values of all arguments is folding those of the literals and those of the others,
one after the other. -/
theorem foldl_literals {α β : Type*} {op : α → α → α} {unit : α}
    (hcomm : ∀ a b, op a b = op b a) [Std.Associative op] [Std.LawfulIdentity op unit]
    {literal? : β → Option α} {f : β → α} (hf : ∀ e value, literal? e = some value → f e = value)
    (args : List β) :
    (args.map f).foldl op unit =
      op ((args.filterMap literal?).foldl op unit)
        (((args.filter fun e => (literal? e).isNone).map f).foldl op unit) := by
  have hcons : ∀ a values, (a :: values).foldl op unit = op a (values.foldl op unit) := by
    intro a values
    rw [List.foldl_cons, hcomm, List.foldl_assoc]
  induction args with
  | nil => exact (Std.LawfulLeftIdentity.left_id _).symm
  | cons e args ih =>
      have hassoc : ∀ a b c, op (op a b) c = op a (op b c) := Std.Associative.assoc
      rw [List.map_cons, hcons, ih]
      cases hliteral : literal? e with
      | some value =>
          rw [List.filterMap_cons_some hliteral, List.filter_cons_of_neg (by simp [hliteral]),
            hcons, hf e value hliteral, hassoc]
      | none =>
          rw [List.filterMap_cons_none hliteral, List.filter_cons_of_pos (by simp [hliteral]),
            List.map_cons, hcons, ← hassoc, ← hassoc, hcomm (f e)]

end Reduct
