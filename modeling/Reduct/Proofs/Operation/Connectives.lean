import Reduct.Operation.Logic
import Reduct.Proofs.Expr.Interpretation

/-!
# Connectives

A connective computes with the truth values among its operands and leaves the others. Whatever
truth values the others have, what it leaves is as true as the call that it was given: a truth value
if that is decided, and otherwise all the others, in their order, under the connective or alone, and
under a negation where the truth values ask for one (`Connective.keeps_truth`).
-/

namespace Reduct.Operation.Logic

inductive Connective where
  | and
  | or
  | xor

namespace Connective

def name : Connective → String
  | and => "And"
  | or => "Or"
  | xor => "Xor"

/-- What the calls of the connective are reduced by. -/
def operation : Connective → List Expr → Except Failure Expr
  | and => Logic.and
  | or => Logic.or
  | xor => Logic.xor

/-- What two truth values make together. -/
def op : Connective → Bool → Bool → Bool
  | and => (· && ·)
  | or => (· || ·)
  | xor => (· ^^ ·)

/-- What no truth values make. -/
def unit : Connective → Bool
  | and => true
  | or => false
  | xor => false

/-- The conjunction, the disjunction or the exclusive disjunction of truth values. -/
def combine (c : Connective) (bs : List Bool) : Bool := bs.foldl c.op c.unit

instance (c : Connective) : Std.Associative c.op := by
  cases c
  · exact inferInstanceAs (Std.Associative (· && ·))
  · exact inferInstanceAs (Std.Associative (· || ·))
  · exact inferInstanceAs (Std.Associative (· ^^ ·))

instance (c : Connective) : Std.LawfulIdentity c.op c.unit := by
  cases c
  · exact inferInstanceAs (Std.LawfulIdentity (· && ·) true)
  · exact inferInstanceAs (Std.LawfulIdentity (· || ·) false)
  · exact inferInstanceAs (Std.LawfulIdentity (· ^^ ·) false)

theorem unit_op (c : Connective) (b : Bool) : c.op c.unit b = b :=
  Std.LawfulLeftIdentity.left_id b

/-- What the truth values among the operands make. -/
def known (c : Connective) (args : List Expr) : Bool := (decided? c.op args).getD c.unit

theorem combine_map_nil (c : Connective) {es : List Expr} (h : es = []) (f : Expr → Bool) :
    c.combine (es.map f) = c.unit := by
  rw [h]
  rfl

theorem op_comm (c : Connective) (a b : Bool) : c.op a b = c.op b a := by
  cases c
  · exact Bool.and_comm a b
  · exact Bool.or_comm a b
  · exact Bool.xor_comm a b

end Connective

/-- What the applications of the connectives and of the negation make of truth values. -/
def truth? (name : String) (bs : List Bool) : Option Bool :=
  match name with
  | "And" => some (Connective.and.combine bs)
  | "Or" => some (Connective.or.combine bs)
  | "Xor" => some (Connective.xor.combine bs)
  | "Not" =>
    match bs with
    | [b] => some !b
    | _ => none
  | _ => none

/-- Symbols for truth values have these, some expressions have the truth values assigned to them,
and applications of the connectives have those that their arguments make. -/
abbrev logical {es : List Expr} (a : Assignment Bool es) : Interpretation Bool :=
  a.interpretation Expr.bool? truth?

variable {args es : List Expr} {name : String} {a : Assignment Bool (undecided args)}

theorem truth?_name (c : Connective) (bs : List Bool) : truth? c.name bs = some (c.combine bs) := by
  cases c <;> rfl

theorem logical_ofBool (a : Assignment Bool es) (b : Bool) :
    (logical a).read? (.ofBool b) = some b := by
  refine Interpretation.read?_of_whole? ?_
  cases b <;> rfl

/-! ### The operands -/

theorem logical_of_mem (a : Assignment Bool (undecided args)) {e : Expr} (he : e ∈ args) :
    (logical a).whole? e = some (a.value Expr.bool? e) :=
  a.whole?_of_mem he

theorem logical_of_mem_undecided (a : Assignment Bool (undecided args)) {e : Expr}
    (he : e ∈ undecided args) : (logical a).whole? e = some (a.value Expr.bool? e) :=
  logical_of_mem a (List.mem_of_mem_filter he)

/-- A call of operands is none of them. -/
theorem logical_call_eq_none (a : Assignment Bool es) (name : String) (hes : es.Sublist args) :
    (logical a).whole? (.call name args) = none :=
  a.whole?_eq_none rfl fun h => Expr.call_not_mem name args (hes.mem h)

/-- The call of a connective is worth what the operands make. -/
theorem read?_call_name (c : Connective) (a : Assignment Bool (undecided args)) :
    (logical a).read? (.call c.name args) =
      some (c.combine (args.map (a.value Expr.bool?))) := by
  rw [Interpretation.read?_call (logical_call_eq_none a c.name List.filter_sublist)
    fun e he => Interpretation.read?_of_whole? (logical_of_mem a he)]
  exact truth?_name c _

/-- What the operands make is what the truth values among them and the others make. -/
theorem combine_values (c : Connective) (a : Assignment Bool (undecided args)) :
    c.combine (args.map (a.value Expr.bool?)) =
      c.op (c.known args) (c.combine ((undecided args).map (a.value Expr.bool?))) := by
  have hknown : (args.filterMap Expr.bool?).foldl c.op c.unit = c.known args := by
    rw [Connective.known, decided?]
    cases args.filterMap Expr.bool? with
    | nil => rfl
    | cons b bs =>
        rw [List.foldl_cons, c.unit_op]
        rfl
  rw [Connective.combine, foldl_literals c.op_comm (fun e b h => a.value_of_literal h) args,
    hknown]
  rfl

/-! ### What is left of the operands -/

section Residue

variable {a : Assignment Bool es} {f : Expr → Bool}

theorem residue_of_length_ne_one (h : es.length ≠ 1) : residue name es = .call name es := by
  unfold residue
  split
  next => exact absurd rfl h
  next => rfl

/-- What is left of a connective is worth what the operands left make. -/
theorem read?_residue (c : Connective) (hf : ∀ e ∈ es, (logical a).whole? e = some (f e)) :
    (logical a).read? (residue c.name es) = some (c.combine (es.map f)) := by
  by_cases hlength : es.length = 1
  · obtain ⟨e, rfl⟩ := List.length_eq_one_iff.mp hlength
    rw [residue, Interpretation.read?_of_whole? (hf e (List.mem_singleton_self e))]
    exact congrArg some (c.unit_op _).symm
  · rw [residue_of_length_ne_one hlength,
      Interpretation.read?_call (logical_call_eq_none a c.name (List.Sublist.refl es))
        fun e he => Interpretation.read?_of_whole? (hf e he)]
    exact truth?_name c _

/-- What is left of a connective holds the operands left. -/
theorem wholes_residue (name : String) (hf : ∀ e ∈ es, (logical a).whole? e = some (f e)) :
    (logical a).wholes (residue name es) = es := by
  by_cases hlength : es.length = 1
  · obtain ⟨e, rfl⟩ := List.length_eq_one_iff.mp hlength
    exact Interpretation.wholes_of_whole? (hf e (List.mem_singleton_self e))
  · rw [residue_of_length_ne_one hlength,
      Interpretation.wholes_call (logical_call_eq_none a name (List.Sublist.refl es)),
      Interpretation.wholesAll_of_whole? hf]

/-- The negation of what is left is none of the operands. -/
theorem not_residue_not_mem (name : String) (es : List Expr) :
    Expr.call "Not" [residue name es] ∉ es := by
  by_cases hlength : es.length = 1
  · obtain ⟨e, rfl⟩ := List.length_eq_one_iff.mp hlength
    exact Expr.call_not_mem "Not" [e]
  · rw [residue_of_length_ne_one hlength]
    intro hmem
    exact Nat.lt_asymm (Expr.sizeOf_lt_call hmem name)
      (Expr.sizeOf_lt_call (List.mem_singleton_self _) "Not")

/-- The negation of what is left is read as one, and holds the operands left. -/
theorem read?_not_residue (c : Connective)
    (hf : ∀ e ∈ es, (logical a).whole? e = some (f e)) :
    (logical a).read? (.call "Not" [residue c.name es]) = some !c.combine (es.map f) ∧
      (logical a).wholes (.call "Not" [residue c.name es]) = es := by
  have hwhole : (logical a).whole? (.call "Not" [residue c.name es]) = none :=
    a.whole?_eq_none rfl (not_residue_not_mem c.name es)
  constructor
  · rw [Interpretation.read?_call hwhole (f := fun _ => c.combine (es.map f))
      fun e he => (List.mem_singleton.mp he) ▸ read?_residue c hf]
    rfl
  · rw [Interpretation.wholes_call hwhole, Interpretation.wholesAll, wholes_residue c.name hf,
      Interpretation.wholesAll, List.append_nil]

end Residue

/-! ### Reducing a connective -/

/-- A connective leaves a truth value, if there are no others or they do not count, or the operands
that are no truth values, if the truth values do not count, or their negation. -/
theorem Connective.operation_cases (c : Connective) (args : List Expr) :
    (∃ b, c.operation args = .ok (.ofBool b) ∧
      ∀ b', (undecided args = [] → b' = c.unit) → c.op (c.known args) b' = b) ∨
    (c.operation args = .ok (residue c.name (undecided args)) ∧
      ∀ b', c.op (c.known args) b' = b') ∨
    (c.operation args = .ok (.call "Not" [residue c.name (undecided args)]) ∧
      ∀ b', c.op (c.known args) b' = !b') := by
  cases c with
  | and =>
      simp only [operation, Logic.and, known, op, unit, name]
      rcases decided? (· && ·) args with _ | _ | _
      · simp
      · simp
      · cases undecided args <;> simp
  | or =>
      simp only [operation, Logic.or, known, op, unit, name]
      rcases decided? (· || ·) args with _ | _ | _
      · simp
      · cases undecided args <;> simp
      · simp
  | xor =>
      simp only [operation, Logic.xor, known, op, unit, name]
      rcases decided? (· ^^ ·) args with _ | _ | _ <;> cases undecided args <;> simp

/-- **Connectives keep the truth.** What a connective leaves is worth what the call was worth, with
any truth values for the operands that are none themselves. Of these all are left, in their order,
if it is not a truth value that is left. -/
theorem Connective.keeps_truth (c : Connective) (args : List Expr)
    (a : Assignment Bool (undecided args)) :
    ∃ e b, c.operation args = .ok e ∧
      (logical a).read? (.call c.name args) = some b ∧ (logical a).read? e = some b ∧
      (e = .ofBool b ∨ (logical a).wholes e = undecided args) := by
  have hcall := read?_call_name c a
  rw [combine_values] at hcall
  have hothers := fun e he => logical_of_mem_undecided a (e := e) he
  obtain ⟨b, he, hb⟩ | ⟨he, hb⟩ | ⟨he, hb⟩ := c.operation_cases args
  · rw [hb _ fun hnil => c.combine_map_nil hnil _] at hcall
    exact ⟨_, b, he, hcall, logical_ofBool a b, .inl rfl⟩
  · rw [hb] at hcall
    exact ⟨_, _, he, hcall, read?_residue c hothers, .inr (wholes_residue c.name hothers)⟩
  · rw [hb] at hcall
    obtain ⟨hread, hwholes⟩ := read?_not_residue c hothers
    exact ⟨_, _, he, hcall, hread, .inr hwholes⟩

/-- One truth value of two counts, and an operand is there twice. -/
theorem Connective.keeps_truth_twice :
    let args : List Expr := [.ofBool true, .sym "x", .ofBool false, .sym "y", .sym "x"]
    let left := Expr.call "Not" [.call "Xor" [.sym "x", .sym "y", .sym "x"]]
    Logic.xor args = .ok left ∧
    ∃ a : Assignment Bool (undecided args),
      a.value? (.sym "x") = some true ∧ a.value? (.sym "y") = some true ∧
      (logical a).read? (.call "Xor" args) = some false ∧
      (logical a).read? left = some false ∧
      (logical a).wholes left = [.sym "x", .sym "y", .sym "x"] := by
  intro args left
  have hargs : undecided args = [.sym "x", .sym "y", .sym "x"] := rfl
  let a : Assignment Bool (undecided args) := {
    value? := fun e => e.symbol?.bind fun name =>
      if e.isHeld = false ∧ (name = "x" ∨ name = "y") then some true else none
    isSome_iff := by
      intro e
      rw [hargs]
      cases e with
      | symbol name held => cases held <;> simp [Expr.symbol?, Expr.isHeld, or_comm]
      | number | string | apply => simp [Expr.symbol?] }
  obtain ⟨e, b, he, hcall, hread, hleft⟩ := Connective.xor.keeps_truth args a
  obtain rfl : left = e := Except.ok.inj he
  have hb : (logical a).read? (.call "Xor" args) = some false := rfl
  obtain rfl : false = b := Option.some.inj (hb.symm.trans hcall)
  exact ⟨rfl, a, rfl, rfl, hcall, hread, hleft.resolve_left nofun⟩

end Reduct.Operation.Logic
