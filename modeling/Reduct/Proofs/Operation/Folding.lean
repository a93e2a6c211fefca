import Mathlib.Algebra.Field.Rat
import Mathlib.Tactic.NormNum
import Reduct.Operation.Arithmetic
import Reduct.Proofs.Expr.Interpretation

/-!
# Folds of numbers

The operations of arithmetic fold the numbers among their operands and leave the others. What a fold
leaves is worth what the call was worth, in any field that the numbers are read in and with any
values for the other operands, as long as the arithmetic done on the numbers is exact there. The
others keep their order, and a call that is left is left as it is when it is reduced again
(`Form.keeps_value`).

Two pairs of operations are alike: sums gather what differences take away, and products gather what
quotients divide by. What is used of a pair is that taking away one after the other is taking away
what is gathered (`Form.Takes.foldl_eq`).

Where operands are regrouped, the inner call is part of what the fold leaves and not an operand,
even if an operand looks the same. So it is what a fold leaves that is read, and the expression made
of it only where all sums and products are read as such (`worth`).
-/

namespace Reduct.Operation.Arithmetic

/-- The operations that fold numbers in any place. -/
inductive Form where
  | sum
  | mul
  | sub
  | div

namespace Form

def name : Form → String
  | sum => "Sum"
  | mul => "Mul"
  | sub => "Sub"
  | div => "Div"

/-- What a fold regroups with. -/
def inverse : Form → Form
  | sum => sub
  | mul => div
  | sub => sum
  | div => mul

/-- What the calls of the form are reduced by. -/
def operation : Form → List Expr → Except Failure Expr
  | sum => Arithmetic.sum
  | mul => product
  | sub => difference
  | div => quotient

/-- The fold of a form, with the arithmetic of any numbers. -/
def fold {ν ε : Type} [Add ν] [Mul ν] [Sub ν] [Div ν] :
    Form → List (Operand ν ε) → Except Failure (Folded ν ε)
  | sum, operands => .ok (gather (· + ·) operands)
  | mul, operands => .ok (gather (· * ·) operands)
  | sub, first :: others => .ok (reduceFrom (· - ·) (· + ·) first others)
  | div, first :: others => .ok (reduceFrom (· / ·) (· * ·) first others)
  | _, [] => .error .insufficientArguments

/-- What a call is worth, from the values of its operands from left to right. A quotient is worth
nothing if it divides by zero. -/
def value? {K : Type*} [Field K] [DecidableEq K] : Form → List K → Option K
  | sum, ks => some (ks.foldl (· + ·) 0)
  | mul, ks => some (ks.foldl (· * ·) 1)
  | sub, k :: ks => some (ks.foldl (· - ·) k)
  | div, k :: ks => if ∀ d ∈ ks, d ≠ 0 then some (ks.foldl (· / ·) k) else none
  | _, [] => none

end Form

section Reading

variable {K : Type*} {ν ε : Type}

/-- The numbers among the operands. -/
def numbers (operands : List (Operand ν ε)) : List ν := operands.filterMap Operand.number?

/-- The operands that are no numbers. -/
def others (operands : List (Operand ν ε)) : List ε := operands.filterMap Operand.other?

/-- The value of an operand: a number is read, and for all else there are values. -/
def Operand.value (ι : ν → K) (v : ε → K) : Operand ν ε → K
  | number x => ι x
  | other e => v e

namespace Folded

/-- What is left of a call of a form is worth. -/
def value? [Field K] [DecidableEq K] (ι : ν → K) (v : ε → K) : Form → Folded ν ε → Option K
  | _, number x => some (ι x)
  | form, call operands => form.value? (operands.map (Operand.value ι v))
  | form, regrouped first rest => do form.value? [v first, ← value? ι v form.inverse rest]

/-- The operands in what is left that are no numbers, from left to right. -/
def remaining : Folded ν ε → List ε
  | number _ => []
  | call operands => others operands
  | regrouped first rest => first :: rest.remaining

end Folded

/-- Each step is exact when the numbers are folded from `x` on: reading the result gives what `op'`
makes of what was read. -/
def ExactFrom (ι : ν → K) (op : ν → ν → ν) (op' : K → K → K) : (x : ν) → List ν → Prop
  | _, [] => True
  | x, y :: ys => ι (op x y) = op' (ι x) (ι y) ∧ ExactFrom ι op op' (op x y) ys

/-- Each step is exact when the numbers are folded. -/
def Exact (ι : ν → K) (op : ν → ν → ν) (op' : K → K → K) : List ν → Prop
  | [] => True
  | x :: xs => ExactFrom ι op op' x xs

/-- The arithmetic on numbers that a fold does is exact. -/
def Form.Exact [Add ν] [Mul ν] [Sub ν] [Div ν] [Add K] [Mul K] [Sub K] [Div K] (ι : ν → K) :
    Form → List (Operand ν ε) → Prop
  | sum, operands => Arithmetic.Exact ι (· + ·) (· + ·) (numbers operands)
  | mul, operands => Arithmetic.Exact ι (· * ·) (· * ·) (numbers operands)
  | sub, .number x :: operands => ExactFrom ι (· - ·) (· - ·) x (numbers operands)
  | sub, .other _ :: operands => Arithmetic.Exact ι (· + ·) (· + ·) (numbers operands)
  | div, .number x :: operands => ExactFrom ι (· / ·) (· / ·) x (numbers operands)
  | div, .other _ :: operands => Arithmetic.Exact ι (· * ·) (· * ·) (numbers operands)
  | _, [] => True

section

variable [Field K]

mutual

/-- The value of an expression. Numbers are read, sums and products are such of the values of their
arguments, and for all else there are values. -/
def worth (ι : Float → K) (v : Expr → K) : Expr → K
  | .number x => ι x
  | .apply head args held =>
    match head.symbol? with
    | some "Sum" => (worths ι v args).foldl (· + ·) 0
    | some "Mul" => (worths ι v args).foldl (· * ·) 1
    | _ => v (.apply head args held)
  | e => v e

/-- `worth` of each expression. -/
def worths (ι : Float → K) (v : Expr → K) : List Expr → List K
  | [] => []
  | e :: es => worth ι v e :: worths ι v es

end

end

end Reading

/-! ### The operands of a fold -/

section Operands

variable {ν ε : Type}

@[simp] theorem numbers_map_other (es : List ε) :
    numbers (es.map Operand.other : List (Operand ν ε)) = [] := by
  simp [numbers, Operand.number?]

@[simp] theorem others_map_other (es : List ε) :
    others (es.map Operand.other : List (Operand ν ε)) = es := by
  rw [others, List.filterMap_map]
  exact List.filterMap_some

theorem mem_others {e : ε} {operands : List (Operand ν ε)} :
    e ∈ others operands ↔ .other e ∈ operands := by
  rw [others, List.mem_filterMap]
  constructor
  · rintro ⟨_ | e, he, h⟩
    · cases h
    · cases h
      exact he
  · intro he
    exact ⟨_, he, rfl⟩

/-- The operands that are left when the numbers are taken out. -/
theorem filter_number?_isNone (operands : List (Operand ν ε)) :
    operands.filter (fun o => o.number?.isNone) = (others operands).map Operand.other := by
  induction operands with
  | nil => rfl
  | cons o operands ih =>
      cases o with
      | number x => rwa [List.filter_cons_of_neg (by simp [Operand.number?])]
      | other e =>
          rw [List.filter_cons_of_pos (by simp [Operand.number?]), ih]
          rfl

theorem gather_of_numbers_nil {op : ν → ν → ν} {operands : List (Operand ν ε)}
    (h : numbers operands = []) :
    gather op operands = .call ((others operands).map .other) := by
  rw [numbers] at h
  rw [gather, h]
  rfl

theorem gather_of_numbers_cons {op : ν → ν → ν} {operands : List (Operand ν ε)} {x : ν}
    {xs : List ν} (h : numbers operands = x :: xs) :
    gather op operands =
      if others operands = [] then .number (xs.foldl op x)
      else .call ((others operands).map .other ++ [.number (xs.foldl op x)]) := by
  rw [numbers] at h
  rw [gather, h]
  simp [others]

theorem reduceFrom_number (op inverse : ν → ν → ν) (x : ν) (operands : List (Operand ν ε)) :
    reduceFrom op inverse (.number x) operands =
      if others operands = [] then .number ((numbers operands).foldl op x)
      else .call (.number ((numbers operands).foldl op x) :: (others operands).map .other) := by
  simp [reduceFrom, others, numbers]

/-- What gathering leaves: the others alone, a number alone, or the others and then a number. -/
theorem gather_cases (op : ν → ν → ν) (operands : List (Operand ν ε)) :
    (numbers operands = [] ∧ gather op operands = .call ((others operands).map .other)) ∨
    ∃ x xs, numbers operands = x :: xs ∧
      ((others operands = [] ∧ gather op operands = .number (xs.foldl op x)) ∨
        (others operands ≠ [] ∧
          gather op operands =
            .call ((others operands).map .other ++ [.number (xs.foldl op x)]))) := by
  cases hnumbers : numbers operands with
  | nil => exact .inl ⟨rfl, gather_of_numbers_nil hnumbers⟩
  | cons x xs =>
      have hgather : gather op operands = _ := gather_of_numbers_cons hnumbers
      refine .inr ⟨x, xs, rfl, ?_⟩
      by_cases hothers : others operands = []
      · exact .inl ⟨hothers, hgather.trans (if_pos hothers)⟩
      · exact .inr ⟨hothers, hgather.trans (if_neg hothers)⟩

/-- What taking away leaves: of a first number, this alone or in front of the others; else the call
as it was, or the first operand and what is gathered of the others. -/
theorem reduceFrom_cases (op inverse : ν → ν → ν) (first : Operand ν ε)
    (operands : List (Operand ν ε)) :
    (∃ x, first = .number x ∧
      ((others operands = [] ∧ reduceFrom op inverse first operands =
          .number ((numbers operands).foldl op x)) ∨
        (others operands ≠ [] ∧ reduceFrom op inverse first operands =
          .call (.number ((numbers operands).foldl op x) :: (others operands).map .other)))) ∨
    ∃ e, first = .other e ∧
      ((∃ second, operands = [second] ∧
          reduceFrom op inverse first operands = .call [.other e, second]) ∨
        reduceFrom op inverse first operands = .regrouped e (gather inverse operands)) := by
  cases first with
  | number x =>
      have hreduce := reduceFrom_number op inverse x operands
      refine .inl ⟨x, rfl, ?_⟩
      by_cases hothers : others operands = []
      · exact .inl ⟨hothers, hreduce.trans (if_pos hothers)⟩
      · exact .inr ⟨hothers, hreduce.trans (if_neg hothers)⟩
  | other e =>
      refine .inr ⟨e, rfl, ?_⟩
      simp only [reduceFrom]
      split
      next second => exact .inl ⟨second, rfl, rfl⟩
      next => exact .inr rfl

end Operands

/-! ### Values -/

section Values

variable {K : Type*} {ν ε : Type} {ι : ν → K} {v : ε → K} {op op' : K → K → K}
  {opν opν' : ν → ν → ν} {unit : K} {operands : List (Operand ν ε)}

/-- Exact steps make an exact fold. -/
theorem ExactFrom.foldl {x : ν} {xs : List ν} (h : ExactFrom ι opν op x xs) :
    ι (xs.foldl opν x) = (xs.map ι).foldl op (ι x) := by
  induction xs generalizing x with
  | nil => rfl
  | cons y ys ih =>
      rw [List.foldl_cons, List.map_cons, List.foldl_cons, ← h.1]
      exact ih h.2

/-- Nothing is rounded where the numbers are read as they are. -/
theorem exactFrom_id {K : Type} (op : K → K → K) (k : K) (ks : List K) :
    ExactFrom id op op k ks := by
  induction ks generalizing k with
  | nil => trivial
  | cons a ks ih => exact ⟨rfl, ih (op k a)⟩

theorem map_value_other (ι : ν → K) (v : ε → K) (es : List ε) :
    (es.map Operand.other).map (Operand.value ι v) = es.map v := by
  rw [List.map_map]
  rfl

/-- The values of the operands are gathered from those of the numbers and those of the others. -/
theorem foldl_values (hcomm : ∀ a b, op a b = op b a) [Std.Associative op]
    [Std.LawfulIdentity op unit] (ι : ν → K) (v : ε → K) (operands : List (Operand ν ε)) :
    (operands.map (Operand.value ι v)).foldl op unit =
      op (((numbers operands).map ι).foldl op unit) (((others operands).map v).foldl op unit) := by
  have hnumbers : operands.filterMap (fun o => o.number?.map ι) = (numbers operands).map ι := by
    rw [numbers, List.map_filterMap]
  have hothers : (operands.filter fun o => (o.number?.map ι).isNone).map (Operand.value ι v) =
      (others operands).map v := by
    simp only [Option.isNone_map, filter_number?_isNone, map_value_other]
  have hvalue : ∀ (o : Operand ν ε) k, o.number?.map ι = some k → Operand.value ι v o = k := by
    rintro (x | e) k hk
    · exact Option.some.inj hk
    · cases hk
  rw [foldl_literals hcomm hvalue, hnumbers, hothers]

variable [Field K] [DecidableEq K]

/-- What is gathered of the operands is worth what they are worth together. -/
theorem value?_gather {form : Form} (hform : ∀ ks, form.value? ks = some (ks.foldl op unit))
    (hcomm : ∀ a b, op a b = op b a) [Std.Associative op] [Std.LawfulIdentity op unit]
    (hexact : Exact ι opν op (numbers operands)) :
    (gather opν operands).value? ι v form =
      some ((operands.map (Operand.value ι v)).foldl op unit) := by
  have hleft : ∀ k, op unit k = k := Std.LawfulLeftIdentity.left_id
  have hright : ∀ k, op k unit = k := Std.LawfulRightIdentity.right_id
  have htotal {x xs} (hnumbers : numbers operands = x :: xs) :
      ((numbers operands).map ι).foldl op unit = ι (xs.foldl opν x) := by
    rw [hnumbers] at hexact ⊢
    rw [ExactFrom.foldl hexact, List.map_cons, List.foldl_cons, hleft]
  rw [foldl_values hcomm]
  obtain ⟨hnumbers, hgather⟩ | ⟨x, xs, hnumbers, ⟨hothers, hgather⟩ | ⟨-, hgather⟩⟩ :=
    gather_cases opν operands
  · rw [hgather, Folded.value?, hform, map_value_other, hnumbers, List.map_nil, List.foldl_nil,
      hleft]
  · rw [hgather, Folded.value?, htotal hnumbers, hothers, List.map_nil, List.foldl_nil, hright]
  · rw [hgather, Folded.value?, hform, List.map_append, map_value_other, List.foldl_append,
      htotal hnumbers, hcomm]
    rfl

/-- Calls of the form take away with `op'` what satisfies `P`, and those of its inverse gather with
`op` what can be taken away at once. -/
structure Form.Takes (form : Form) (op op' : K → K → K) (unit : K) (P : K → Prop) : Prop where
  comm : ∀ a b, op a b = op b a
  take_take : ∀ a b c, op' (op' a b) c = op' a (op b c)
  take_unit : ∀ a, op' a unit = a
  holds_unit : P unit
  holds_op : ∀ a b, P a → P b → P (op a b)
  value?_cons : ∀ k ks, (∀ d ∈ ks, P d) → form.value? (k :: ks) = some (ks.foldl op' k)
  value?_inverse : ∀ ks, form.inverse.value? ks = some (ks.foldl op unit)

namespace Form

theorem takes_sub : sub.Takes (K := K) (· + ·) (· - ·) 0 fun _ => True where
  comm := add_comm
  take_take := sub_sub
  take_unit := sub_zero
  holds_unit := trivial
  holds_op _ _ _ _ := trivial
  value?_cons _ _ _ := rfl
  value?_inverse _ := rfl

theorem takes_div : div.Takes (K := K) (· * ·) (· / ·) 1 (· ≠ 0) where
  comm := mul_comm
  take_take := div_div
  take_unit := div_one
  holds_unit := one_ne_zero
  holds_op _ _ := mul_ne_zero
  value?_cons _ _ h := if_pos h
  value?_inverse _ := rfl

variable {form : Form} {P : K → Prop} {first : Operand ν ε}

/-- Taking away one after the other is taking away what is gathered. -/
theorem Takes.foldl_eq (h : form.Takes op op' unit P) [Std.Associative op]
    [Std.LawfulIdentity op unit] (k : K) (ks : List K) :
    ks.foldl op' k = op' k (ks.foldl op unit) := by
  induction ks generalizing k with
  | nil => exact (h.take_unit k).symm
  | cons a ks ih =>
      have hleft : op unit a = a := Std.LawfulLeftIdentity.left_id a
      have hright : op a unit = a := Std.LawfulRightIdentity.right_id a
      have hgather : ks.foldl op (op unit a) = op a (ks.foldl op unit) := by
        rw [hleft]
        exact (congrArg (ks.foldl op) hright.symm).trans List.foldl_assoc
      rw [List.foldl_cons, List.foldl_cons, ih, h.take_take, hgather]

/-- What is gathered can be taken away if all that is gathered can. -/
theorem Takes.foldl (h : form.Takes op op' unit P) {ks : List K} (hks : ∀ d ∈ ks, P d) :
    P (ks.foldl op unit) :=
  List.foldlRecOn ks op h.holds_unit fun k hk d hd => h.holds_op k d hk (hks d hd)

/-- What is taken away from the first operand and its inverse gathered is worth what taking away
one operand after the other is. -/
theorem Takes.value?_reduceFrom (h : form.Takes op op' unit P) [Std.Associative op]
    [Std.LawfulIdentity op unit]
    (hnumber : ∀ x, first = .number x → ExactFrom ι opν' op' x (numbers operands))
    (hother : ∀ e, first = .other e → Arithmetic.Exact ι opν op (numbers operands))
    (hP : ∀ d ∈ operands.map (Operand.value ι v), P d) :
    (reduceFrom opν' opν first operands).value? ι v form =
      some ((operands.map (Operand.value ι v)).foldl op' (first.value ι v)) := by
  -- What a first number is worth in the end: the other numbers are taken away from it first.
  have hfirst {x} (hx : first = .number x) :
      (operands.map (Operand.value ι v)).foldl op' (first.value ι v) =
        op' (ι ((numbers operands).foldl opν' x)) (((others operands).map v).foldl op unit) := by
    rw [(hnumber x hx).foldl, h.foldl_eq, h.foldl_eq _ ((numbers operands).map ι),
      foldl_values h.comm, h.take_take, hx]
    rfl
  obtain ⟨x, hx, ⟨hothers, hreduce⟩ | ⟨-, hreduce⟩⟩ | ⟨e, rfl, ⟨second, rfl, hreduce⟩ | hreduce⟩ :=
    reduceFrom_cases opν' opν first operands
  · rw [hreduce, Folded.value?, hfirst hx, hothers, List.map_nil, List.foldl_nil, h.take_unit]
  · have hothers : ∀ d ∈ (others operands).map v, P d := by
      intro d hd
      obtain ⟨e, he, rfl⟩ := List.mem_map.mp hd
      exact hP _ (List.mem_map_of_mem (f := Operand.value ι v) (mem_others.mp he))
    rw [hreduce, hfirst hx, Folded.value?, List.map_cons, map_value_other,
      h.value?_cons _ _ hothers, h.foldl_eq]
    rfl
  · rw [hreduce, Folded.value?, List.map_cons, h.value?_cons _ _ hP]
  · rw [hreduce, Folded.value?, value?_gather h.value?_inverse h.comm (hother e rfl), h.foldl_eq]
    exact h.value?_cons _ _ (by simpa using h.foldl hP)

end Form

/-- **A fold keeps the value.** -/
theorem Form.value?_fold [Add ν] [Mul ν] [Sub ν] [Div ν] (f : Form) (hne : operands ≠ [])
    (hexact : f.Exact ι operands)
    (hdiv : f = .div → ∀ d ∈ (operands.map (Operand.value ι v)).tail, d ≠ 0) :
    ∃ folded k, f.fold operands = .ok folded ∧
      f.value? (operands.map (Operand.value ι v)) = some k ∧ folded.value? ι v f = some k := by
  cases f with
  | sum => exact ⟨_, _, rfl, rfl, value?_gather (fun _ => rfl) add_comm hexact⟩
  | mul => exact ⟨_, _, rfl, rfl, value?_gather (fun _ => rfl) mul_comm hexact⟩
  | sub =>
      obtain ⟨first, operands, rfl⟩ := List.exists_cons_of_ne_nil hne
      refine ⟨_, _, rfl, rfl, takes_sub.value?_reduceFrom ?_ ?_ fun _ _ => trivial⟩
      · rintro x rfl
        exact hexact
      · rintro e rfl
        exact hexact
  | div =>
      obtain ⟨first, operands, rfl⟩ := List.exists_cons_of_ne_nil hne
      refine ⟨_, _, rfl, if_pos (hdiv rfl), takes_div.value?_reduceFrom ?_ ?_ (hdiv rfl)⟩
      · rintro x rfl
        exact hexact
      · rintro e rfl
        exact hexact

end Values

/-! ### What is left -/

section Left

variable {ν ε : Type} {op inverse : ν → ν → ν} {first : Operand ν ε}
  {operands left : List (Operand ν ε)} {folded : Folded ν ε}

@[simp] theorem others_append_number (es : List ε) (x : ν) :
    others (es.map Operand.other ++ [.number x]) = es := by
  rw [others, List.filterMap_append]
  exact (List.append_nil _).trans (others_map_other (ν := ν) es)

theorem remaining_gather : (gather op operands).remaining = others operands := by
  obtain ⟨-, hgather⟩ | ⟨x, xs, -, ⟨hothers, hgather⟩ | ⟨-, hgather⟩⟩ := gather_cases op operands
  · rw [hgather, Folded.remaining, others_map_other]
  · rw [hgather, Folded.remaining, hothers]
  · rw [hgather, Folded.remaining, others_append_number]

theorem remaining_reduceFrom :
    (reduceFrom op inverse first operands).remaining = others (first :: operands) := by
  obtain ⟨x, rfl, ⟨hothers, hreduce⟩ | ⟨-, hreduce⟩⟩ | ⟨e, rfl, ⟨second, rfl, hreduce⟩ | hreduce⟩ :=
    reduceFrom_cases op inverse first operands
  · rw [hreduce]
    exact hothers.symm
  · rw [hreduce]
    exact others_map_other (ν := ν) _
  · rw [hreduce]
    rfl
  · rw [hreduce, Folded.remaining, remaining_gather]
    rfl

theorem gather_ne_regrouped {e : ε} : gather op operands ≠ .regrouped e folded := by
  obtain ⟨-, hgather⟩ | ⟨x, xs, -, ⟨-, hgather⟩ | ⟨-, hgather⟩⟩ := gather_cases op operands <;>
    rw [hgather] <;> nofun

/-- What is gathered has no more numbers to fold. -/
theorem gather_call (h : gather op operands = .call left) : gather op left = .call left := by
  obtain ⟨-, hgather⟩ | ⟨x, xs, -, ⟨-, hgather⟩ | ⟨hothers, hgather⟩⟩ :=
    gather_cases op operands
  · cases hgather.symm.trans h
    rw [gather_of_numbers_nil (numbers_map_other _), others_map_other]
  · cases hgather.symm.trans h
  · cases hgather.symm.trans h
    have hnumber : numbers ((others operands).map .other ++ [.number (xs.foldl op x)]) =
        [xs.foldl op x] := by
      rw [numbers, List.filterMap_append]
      exact congrArg (· ++ _) (numbers_map_other (others operands))
    rw [gather_of_numbers_cons hnumber, others_append_number, if_neg hothers]
    rfl

theorem reduceFrom_call (h : reduceFrom op inverse first operands = .call left) :
    ∃ first' operands', left = first' :: operands' ∧
      reduceFrom op inverse first' operands' = .call left := by
  obtain ⟨x, rfl, ⟨-, hreduce⟩ | ⟨hothers, hreduce⟩⟩ | ⟨e, rfl, ⟨second, rfl, hreduce⟩ | hreduce⟩ :=
    reduceFrom_cases op inverse first operands <;> cases hreduce.symm.trans h
  · refine ⟨_, _, rfl, ?_⟩
    rw [reduceFrom_number, others_map_other, if_neg hothers, numbers_map_other]
    rfl
  · exact ⟨_, _, rfl, rfl⟩

theorem reduceFrom_regrouped {e : ε}
    (h : reduceFrom op inverse first operands = .regrouped e folded) :
    folded = gather inverse operands := by
  obtain ⟨x, rfl, ⟨-, hreduce⟩ | ⟨-, hreduce⟩⟩ | ⟨e, rfl, ⟨second, rfl, hreduce⟩ | hreduce⟩ :=
    reduceFrom_cases op inverse first operands <;> cases hreduce.symm.trans h
  rfl

namespace Form

variable [Add ν] [Mul ν] [Sub ν] [Div ν] {f : Form}

/-- The operands that are no numbers are left in their order. -/
theorem remaining_fold (h : f.fold operands = .ok folded) :
    folded.remaining = others operands := by
  cases f with
  | sum | mul =>
      obtain rfl := Except.ok.inj h
      exact remaining_gather
  | sub | div =>
      cases operands with
      | nil => cases h
      | cons first operands =>
          obtain rfl := Except.ok.inj h
          exact remaining_reduceFrom

/-- A call that is left of a fold is left as it is. -/
theorem fold_call (h : f.fold operands = .ok (.call left)) : f.fold left = .ok (.call left) := by
  cases f with
  | sum | mul => exact congrArg Except.ok (gather_call (Except.ok.inj h))
  | sub | div =>
      cases operands with
      | nil => cases h
      | cons first operands =>
          obtain ⟨first', operands', rfl, hleft⟩ := reduceFrom_call (Except.ok.inj h)
          exact congrArg Except.ok hleft

/-- Differences and quotients regroup, and what they gather is a number or one call. -/
theorem fold_regrouped {e : ε} (h : f.fold operands = .ok (.regrouped e folded)) :
    (f = .sub ∨ f = .div) ∧ ∀ e' folded', folded ≠ .regrouped e' folded' := by
  cases f with
  | sum | mul => exact absurd (Except.ok.inj h) gather_ne_regrouped
  | sub | div =>
      cases operands with
      | nil => cases h
      | cons first operands =>
          rw [reduceFrom_regrouped (Except.ok.inj h)]
          exact ⟨by simp, fun _ _ => gather_ne_regrouped⟩

end Form

end Left

/-! ### Expressions -/

section Expressions

variable {f : Form} {args parts : List Expr} {left : List (Operand Float Expr)}

/-- The arguments of a call are its operands as expressions. -/
theorem map_ofExpr_toExpr (h : ∀ e ∈ others left, Operand.ofExpr e = .other e) :
    (left.map Operand.toExpr).map Operand.ofExpr = left := by
  rw [List.map_map]
  refine (List.map_congr_left fun o ho => ?_).trans (List.map_id left)
  cases o with
  | number x => rfl
  | other e => exact h e (mem_others.mpr ho)

@[simp] theorem toExpr_ofExpr (e : Expr) : (Operand.ofExpr e).toExpr = e := by
  cases e <;> rfl

theorem ofExpr_of_mem_others {e : Expr} (h : e ∈ others (args.map Operand.ofExpr)) :
    Operand.ofExpr e = .other e := by
  obtain ⟨arg, -, harg⟩ := List.mem_map.mp (mem_others.mp h)
  cases arg with
  | number x => cases harg
  | string | symbol | apply =>
      cases harg
      rfl

namespace Form

/-- The operation of a form is its fold of the arguments. -/
theorem operation_eq (f : Form) (args : List Expr) :
    f.operation args =
      (f.fold (args.map Operand.ofExpr)).map fun folded => folded.toExpr f.name f.inverse.name := by
  cases f with
  | sum | mul => rfl
  | sub | div => cases args <;> rfl

theorem operation_again (h : f.operation args = .ok (.call f.name parts)) :
    f.operation parts = .ok (.call f.name parts) := by
  rw [operation_eq] at h
  cases hfold : f.fold (args.map Operand.ofExpr) with
  | error failure => rw [hfold] at h; cases h
  | ok folded =>
      rw [hfold] at h
      have hothers : ∀ e ∈ folded.remaining, Operand.ofExpr e = .other e := by
        rw [remaining_fold hfold]
        exact fun e he => ofExpr_of_mem_others he
      cases folded with
      | number x => cases h
      | call left =>
          cases h
          rw [operation_eq, map_ofExpr_toExpr hothers, fold_call hfold]
          rfl
      | regrouped first rest =>
          cases h
          have hpair : ∀ second : Operand Float Expr, f.fold [.other first, second] =
              .ok (.call [.other first, second]) := by
            have hf := (fold_regrouped hfold).1
            obtain rfl | rfl := hf <;> exact fun _ => rfl
          rw [operation_eq, List.map_cons, List.map_singleton,
            hothers first (List.mem_cons_self ..), hpair]
          exact congrArg (fun e => Except.ok (Expr.call f.name [first, e])) (toExpr_ofExpr _)

end Form

section Worth

variable {K : Type*} [Field K] {ι : Float → K} {v : Expr → K}

theorem worths_eq_map (ι : Float → K) (v : Expr → K) (es : List Expr) :
    worths ι v es = es.map (worth ι v) := by
  induction es with
  | nil => rfl
  | cons e es ih => rw [worths, ih, List.map_cons]

/-- An expression is worth what it is as an operand. -/
theorem value_ofExpr (ι : Float → K) (v : Expr → K) (e : Expr) :
    (Operand.ofExpr e).value ι (worth ι v) = worth ι v e := by
  cases e <;> rfl

theorem map_value_ofExpr (ι : Float → K) (v : Expr → K) (es : List Expr) :
    (es.map Operand.ofExpr).map (Operand.value ι (worth ι v)) = es.map (worth ι v) := by
  rw [List.map_map]
  exact List.map_congr_left fun e _ => value_ofExpr ι v e

theorem map_worth_toExpr (h : ∀ e ∈ others left, Operand.ofExpr e = .other e) :
    (left.map Operand.toExpr).map (worth ι v) = left.map (Operand.value ι (worth ι v)) := by
  rw [← map_value_ofExpr, map_ofExpr_toExpr h]

variable [DecidableEq K]

/-- What is gathered is worth the same as an expression. -/
theorem worth_toExpr {form : Form} {folded : Folded Float Expr} {k : K}
    (hform : form = .sum ∨ form = .mul) (hfolded : ∀ e folded', folded ≠ .regrouped e folded')
    (hothers : ∀ e ∈ folded.remaining, Operand.ofExpr e = .other e)
    (h : folded.value? ι (worth ι v) form = some k) :
    worth ι v (folded.toExpr form.name form.inverse.name) = k := by
  cases folded with
  | number x => exact Option.some.inj h
  | call left =>
      rw [Folded.value?, ← map_worth_toExpr hothers, ← worths_eq_map] at h
      obtain rfl | rfl := hform <;> exact Option.some.inj h
  | regrouped e folded => exact absurd rfl (hfolded e folded)

/-- An operation keeps the value of a call, where sums and products are read as such. -/
theorem Form.worth_operation (f : Form) (hne : args ≠ [])
    (hexact : f.Exact ι (args.map Operand.ofExpr))
    (hdiv : f = .div → ∀ e ∈ args.tail, worth ι v e ≠ 0) :
    ∃ e k, f.operation args = .ok e ∧ f.value? (args.map (worth ι v)) = some k ∧
      ((∃ x, e = .number x ∧ ι x = k) ∨
        ∃ parts, e = .call f.name parts ∧ f.value? (parts.map (worth ι v)) = some k) := by
  have hdivisors : f = .div →
      ∀ d ∈ ((args.map Operand.ofExpr).map (Operand.value ι (worth ι v))).tail, d ≠ 0 := by
    intro hf
    rw [map_value_ofExpr, ← List.map_tail]
    exact List.forall_mem_map.mpr (hdiv hf)
  obtain ⟨folded, k, hfold, hcall, hleft⟩ := f.value?_fold (by simpa using hne) hexact hdivisors
  rw [map_value_ofExpr] at hcall
  refine ⟨_, k, by rw [operation_eq, hfold]; rfl, hcall, ?_⟩
  have hothers : ∀ e ∈ folded.remaining, Operand.ofExpr e = .other e := by
    rw [remaining_fold hfold]
    exact fun e he => ofExpr_of_mem_others he
  cases folded with
  | number x => exact .inl ⟨x, rfl, Option.some.inj hleft⟩
  | call left =>
      refine .inr ⟨_, rfl, ?_⟩
      rw [map_worth_toExpr hothers]
      exact hleft
  | regrouped first rest =>
      -- The inner call is a sum or a product, so `worth` reads it as what was gathered.
      obtain ⟨hf, hrest⟩ := fold_regrouped hfold
      obtain ⟨k', hk', hk⟩ := Option.bind_eq_some_iff.mp hleft
      have hinner : worth ι v (rest.toExpr f.inverse.name f.inverse.inverse.name) = k' :=
        worth_toExpr (by obtain rfl | rfl := hf <;> simp [Form.inverse]) hrest
          (fun e he => hothers e (List.mem_cons_of_mem _ he)) hk'
      have hname : f.inverse.inverse = f := by cases f <;> rfl
      rw [hname] at hinner
      refine .inr ⟨_, rfl, ?_⟩
      rw [List.map_cons, List.map_singleton, hinner]
      exact hk

end Worth

end Expressions

/-- In the field itself all arithmetic is exact. -/
theorem Form.exact_id {K : Type} [Field K] {ε : Type} (f : Form) (operands : List (Operand K ε)) :
    f.Exact id operands := by
  have hexact : ∀ (op : K → K → K) ks, Arithmetic.Exact id op op ks := by
    intro op ks
    cases ks with
    | nil => trivial
    | cons k ks => exact exactFrom_id op k ks
  cases f with
  | sum | mul => exact hexact _ _
  | sub | div =>
      obtain _ | ⟨x | e, operands⟩ := operands
      · trivial
      · exact exactFrom_id _ x _
      · exact hexact _ _

/-- **Arithmetic keeps values.** An operation folds its arguments. Whatever a field makes of the
numbers, if it is exact where the fold computes with them, and whatever the other operands are
worth, if nothing is divided by zero, the fold leaves what is worth the same as the operands from
left to right, with the other operands in their order. As an expression it is worth the same where
sums and products are read as such. And a call that is left is left as it is. -/
theorem Form.keeps_value (f : Form) {K : Type*} [Field K] [DecidableEq K] :
    (∀ args, f.operation args =
      (f.fold (args.map Operand.ofExpr)).map fun folded => folded.toExpr f.name f.inverse.name) ∧
    (∀ (ν ε : Type) [Add ν] [Mul ν] [Sub ν] [Div ν] (ι : ν → K) (v : ε → K)
      (operands : List (Operand ν ε)), operands ≠ [] → f.Exact ι operands →
      (f = .div → ∀ d ∈ (operands.map (Operand.value ι v)).tail, d ≠ 0) →
      ∃ folded k, f.fold operands = .ok folded ∧
        f.value? (operands.map (Operand.value ι v)) = some k ∧ folded.value? ι v f = some k ∧
        folded.remaining = others operands) ∧
    (∀ (ι : Float → K) (v : Expr → K) (args : List Expr), args ≠ [] →
      f.Exact ι (args.map Operand.ofExpr) → (f = .div → ∀ e ∈ args.tail, worth ι v e ≠ 0) →
      ∃ e k, f.operation args = .ok e ∧ f.value? (args.map (worth ι v)) = some k ∧
        ((∃ x, e = .number x ∧ ι x = k) ∨
          ∃ parts, e = .call f.name parts ∧ f.value? (parts.map (worth ι v)) = some k)) ∧
    ∀ args parts, f.operation args = .ok (.call f.name parts) →
      f.operation parts = .ok (.call f.name parts) := by
  refine ⟨f.operation_eq, ?_, fun ι v args hne hexact hdiv => f.worth_operation hne hexact hdiv,
    fun args parts h => operation_again h⟩
  intro ν ε _ _ _ _ ι v operands hne hexact hdiv
  obtain ⟨folded, k, hfold, hcall, hleft⟩ := f.value?_fold hne hexact hdiv
  exact ⟨folded, k, hfold, hcall, hleft, remaining_fold hfold⟩

/-- What is divided by is gathered, with the numbers in one. -/
theorem Form.keeps_value_quotient :
    let args : List Expr := [.sym "x", .number 2, .sym "y", .number 3]
    let left : List Expr := [.sym "x", .call "Mul" [.sym "y", .number 6]]
    let folded : Folded ℚ String :=
      reduceFrom (· / ·) (· * ·) (.other "x") [.number 2, .other "y", .number 3]
    quotient args = .ok (.call "Div" left) ∧ quotient left = .ok (.call "Div" left) ∧
    (∃ (ι : Float → ℚ) (v : Expr → ℚ), args.map (worth ι v) = [24, 2, 2, 3] ∧
      Form.div.value? (left.map (worth ι v)) = some 2) ∧
    folded.value? id (fun name => if name = "x" then 24 else 2) .div = some 2 ∧
      folded.remaining = ["x", "y"] := by
  intro args left folded
  obtain ⟨-, hvalue, hworth, hagain⟩ := Form.div.keeps_value (K := ℚ)
  have hsix : (2 : Float) * 3 = 6 := by decide +kernel
  have hcall : quotient args = .ok (.call "Div" left) :=
    congrArg (fun x : Float =>
      Except.ok (Expr.call "Div" [.sym "x", .call "Mul" [.sym "y", .number x]])) hsix
  let ι : Float → ℚ := fun x => (integer? x).elim 0 Int.cast
  let v : Expr → ℚ := fun e => if e.symbol? = some "x" then 24 else 2
  have hinteger : integer? 2 = some 2 ∧ integer? 3 = some 3 ∧ integer? 6 = some 6 := by
    decide +kernel
  have htwo : ι 2 = 2 := by simp [ι, hinteger]
  have hthree : ι 3 = 3 := by simp [ι, hinteger]
  have hsix' : ι (2 * 3) = 2 * 3 := by
    rw [hsix]
    norm_num [ι, hinteger]
  have hargs : args.map (worth ι v) = [24, 2, 2, 3] := by
    simp [args, worth, htwo, hthree, v, Expr.symbol?]
  refine ⟨hcall, hagain args left hcall, ⟨ι, v, hargs, ?_⟩, ?_⟩
  · have hexact : Form.div.Exact ι (args.map Operand.ofExpr) := by
      refine ⟨?_, trivial⟩
      rw [htwo, hthree, hsix']
    have hdiv : ∀ e ∈ args.tail, worth ι v e ≠ 0 := by
      simp [args, worth, htwo, hthree, v, Expr.symbol?]
    obtain ⟨e, k, he, hk, hleft⟩ := hworth ι v args (List.cons_ne_nil _ _) hexact fun _ => hdiv
    rw [hargs] at hk
    obtain rfl : (2 : ℚ) = k := by
      rw [Form.value?, if_pos (by simp)] at hk
      norm_num at hk
      exact hk
    obtain ⟨x, rfl, -⟩ | ⟨parts, rfl, hparts⟩ := hleft
    · cases hcall.symm.trans he
    · cases hcall.symm.trans he
      exact hparts
  · let w : String → ℚ := fun name => if name = "x" then 24 else 2
    have hx : w "x" = 24 := rfl
    have hy : w "y" = 2 := rfl
    obtain ⟨folded, k, hfold, hk, hleft, hothers⟩ := hvalue ℚ String id w
      [.other "x", .number 2, .other "y", .number 3] (List.cons_ne_nil _ _)
      (Form.div.exact_id _) (by simp [Operand.value, hy])
    obtain rfl := Except.ok.inj hfold
    refine ⟨?_, hothers⟩
    rw [hleft, ← hk]
    norm_num [Operand.value, Form.value?, hx, hy]

end Reduct.Operation.Arithmetic
