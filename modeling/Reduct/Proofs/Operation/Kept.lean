import Reduct.Library
import Reduct.Proofs.Rule.Kept

/-!
# What operations keep

The operations that only compute with their arguments give parts of the arguments, new applications,
numbers, strings, and symbols with fixed names or words for names. So they keep what evaluation
keeps (`Operation.Keeps`), group by group.
-/

namespace Reduct.Operation

variable {P : String → Prop} {Q : Expr → Prop} {e : Expr} {args : List Expr} {name inverse : String}

/-- From expressions with the property the function gives such an expression, if it gives one. -/
def Keeps (Q : Expr → Prop) (f : List Expr → Except Failure Expr) : Prop :=
  ∀ args : List Expr, (∀ a ∈ args, Q a) → ∀ e, f args = .ok e → Q e

/-- What is given is an expression with the property, or a failure. -/
theorem of_ok {e' : Expr} (h : Q e) (heq : (Except.ok e : Except Failure Expr) = .ok e') : Q e' :=
  Except.ok.inj heq ▸ h

/-! ### Arithmetic -/

namespace Arithmetic

/-- The property holds of the operand. -/
def Operand.Holds (Q : Expr → Prop) (o : Operand Float Expr) : Prop := Q o.toExpr

/-- The property holds of what a fold leaves. -/
def Folded.Holds (Q : Expr → Prop) : Folded Float Expr → Prop
  | .number _ => True
  | .call operands => ∀ o ∈ operands, o.Holds Q
  | .regrouped first others => Q first ∧ others.Holds Q

variable {op : Float → Float → Float} {operands : List (Operand Float Expr)}

theorem holds_ofExpr (h : Q e) : (Operand.ofExpr e).Holds Q := by
  cases e <;> exact h

theorem holds_others (h : ∀ o ∈ operands, o.Holds Q) :
    ∀ o ∈ (operands.filterMap Operand.other?).map Operand.other, o.Holds Q := by
  intro o ho
  obtain ⟨e, he, rfl⟩ := List.mem_map.mp ho
  obtain ⟨o, ho, hother⟩ := List.mem_filterMap.mp he
  cases o with
  | number value => simp [Operand.other?] at hother
  | other e => exact Option.some.inj hother ▸ h _ ho

theorem holds_operands (hargs : ∀ a ∈ args, Q a) :
    ∀ o ∈ args.map Operand.ofExpr, o.Holds Q := by
  intro o ho
  obtain ⟨a, ha, rfl⟩ := List.mem_map.mp ho
  exact holds_ofExpr (hargs a ha)

variable (hQ : Expr.Kept P Q)
include hQ

theorem holds_toExpr {folded : Folded Float Expr} (h : folded.Holds Q) (hname : P name)
    (hinverse : P inverse) : Q (folded.toExpr name inverse) := by
  induction folded generalizing name inverse with
  | number value => exact hQ.number value
  | call operands =>
      refine hQ.app (hQ.sym hname) fun a ha => ?_
      obtain ⟨o, ho, rfl⟩ := List.mem_map.mp ha
      exact h o ho
  | regrouped first others ih =>
      exact hQ.app (hQ.sym hname) (by simpa using ⟨h.1, ih h.2 hinverse hname⟩)

theorem holds_gather (h : ∀ o ∈ operands, o.Holds Q) : (gather op operands).Holds Q := by
  have hothers := holds_others h
  rw [gather]
  split
  next => exact hothers
  next value values _ =>
    dsimp only
    split
    · trivial
    · intro o ho
      obtain ho | ho := List.mem_append.mp ho
      · exact hothers o ho
      · obtain rfl := List.mem_singleton.mp ho
        exact hQ.number _

theorem holds_reduceFrom {inverse : Float → Float → Float} {first : Operand Float Expr}
    (hfirst : first.Holds Q) (h : ∀ o ∈ operands, o.Holds Q) :
    (reduceFrom op inverse first operands).Holds Q := by
  cases first with
  | number value =>
      simp only [reduceFrom]
      split
      · trivial
      · intro o ho
        obtain rfl | ho := List.mem_cons.mp ho
        · exact hQ.number _
        · exact holds_others h o ho
  | other e =>
      simp only [reduceFrom]
      split
      next second =>
        intro o ho
        obtain rfl | ho := List.mem_cons.mp ho
        · exact hfirst
        · exact h o ho
      next => exact ⟨hfirst, holds_gather hQ h⟩

theorem holds_reduceRun (value : Float) (h : ∀ o ∈ operands, o.Holds Q) :
    (reduceRun op value operands).Holds Q := by
  induction operands generalizing value with
  | nil => trivial
  | cons o operands ih =>
      cases o with
      | number next => exact ih _ fun o ho => h o (List.mem_cons_of_mem _ ho)
      | other e =>
          intro o ho
          obtain rfl | ho := List.mem_cons.mp ho
          · exact hQ.number _
          · exact h o ho

theorem keeps_sum : Keeps Q sum := fun _ hargs _ =>
  of_ok (holds_toExpr hQ (holds_gather hQ (holds_operands hargs)) (hQ.plain _ (by decide))
    (hQ.plain _ (by decide)))

theorem keeps_product : Keeps Q product := fun _ hargs _ =>
  of_ok (holds_toExpr hQ (holds_gather hQ (holds_operands hargs)) (hQ.plain _ (by decide))
    (hQ.plain _ (by decide)))

theorem keeps_difference : Keeps Q difference := by
  intro args hargs e he
  match args with
  | [] => simp [difference] at he
  | first :: others =>
      rw [List.forall_mem_cons] at hargs
      exact of_ok (holds_toExpr hQ (holds_reduceFrom hQ (holds_ofExpr hargs.1)
        (holds_operands hargs.2)) (hQ.plain _ (by decide)) (hQ.plain _ (by decide))) he

theorem keeps_quotient : Keeps Q quotient := by
  intro args hargs e he
  match args with
  | [] => simp [quotient] at he
  | first :: others =>
      rw [List.forall_mem_cons] at hargs
      exact of_ok (holds_toExpr hQ (holds_reduceFrom hQ (holds_ofExpr hargs.1)
        (holds_operands hargs.2)) (hQ.plain _ (by decide)) (hQ.plain _ (by decide))) he

theorem keeps_modulus : Keeps Q modulus := by
  intro args hargs e he
  unfold modulus at he
  split at he
  next => simp at he
  next value others =>
    rw [List.forall_mem_cons] at hargs
    exact of_ok (holds_toExpr hQ (holds_reduceRun hQ value (holds_operands hargs.2))
      (hQ.plain _ (by decide)) (hQ.plain _ (by decide))) he
  next => exact of_ok (hQ.app (hQ.word _ (by decide)) hargs) he

theorem keeps_power : Keeps Q power := by
  intro args hargs e he
  unfold power at he
  split at he
  · exact of_ok (hQ.number _) he
  · exact of_ok (hQ.app (hQ.word _ (by decide)) hargs) he

end Arithmetic

/-! ### Logic -/

namespace Logic

theorem holds_undecided (hargs : ∀ a ∈ args, Q a) : ∀ a ∈ undecided args, Q a :=
  fun a ha => hargs a (List.mem_filter.mp ha).1

variable (hQ : Expr.Kept P Q)
include hQ

theorem holds_residue (hname : P name) (hargs : ∀ a ∈ args, Q a) : Q (residue name args) := by
  unfold residue
  split
  · exact hargs _ (by simp)
  · exact hQ.app (hQ.sym hname) hargs

theorem keeps_not : Keeps Q not := by
  intro args hargs e he
  unfold not at he
  split at he
  next => simp at he
  next =>
    split at he
    · exact of_ok (hQ.ofBool _) he
    · exact of_ok (hQ.app (hQ.word _ (by decide)) hargs) he

theorem keeps_and : Keeps Q and := by
  intro args hargs e he
  unfold and at he
  split at he
  · exact of_ok (hQ.ofBool _) he
  · exact of_ok (hQ.ofBool _) he
  · exact of_ok (holds_residue hQ (hQ.plain _ (by decide)) (holds_undecided hargs)) he

theorem keeps_or : Keeps Q or := by
  intro args hargs e he
  unfold or at he
  split at he
  · exact of_ok (hQ.ofBool _) he
  · exact of_ok (hQ.ofBool _) he
  · exact of_ok (holds_residue hQ (hQ.plain _ (by decide)) (holds_undecided hargs)) he

theorem keeps_xor : Keeps Q xor := by
  intro args hargs e he
  have hresidue : Q (residue "Xor" (undecided args)) :=
    holds_residue hQ (hQ.plain _ (by decide)) (holds_undecided hargs)
  unfold xor at he
  split at he
  next => exact of_ok (hQ.ofBool _) he
  next => exact of_ok (hQ.app (hQ.word _ (by decide)) (by simpa using hresidue)) he
  next => exact of_ok hresidue he

theorem keeps_deciding (hname : P name)
    (decide? : Expr → Expr → Option Bool) : Keeps Q (deciding name decide?) := by
  intro args hargs e he
  unfold deciding at he
  split at he
  next =>
    split at he
    · exact of_ok (hQ.ofBool _) he
    · exact of_ok (hQ.app (hQ.sym hname) hargs) he
  next => simp at he

end Logic

/-! ### Parts and forms -/

namespace Parts

variable (hQ : Expr.Kept P Q)
include hQ

theorem keeps_append : Keeps Q append := by
  intro args hargs e he
  unfold append at he
  split at he
  next head args' held items =>
    rw [List.forall_mem_cons] at hargs
    exact of_ok (hQ.app (hQ.head hargs.1) (List.forall_mem_append.mpr
      ⟨fun _ => hQ.arg hargs.1, hargs.2⟩)) he
  next => simp at he
  next => simp at he

theorem keeps_prepend : Keeps Q prepend := by
  intro args hargs e he
  unfold prepend at he
  split at he
  next head args' held items =>
    rw [List.forall_mem_cons] at hargs
    exact of_ok (hQ.app (hQ.head hargs.1) (List.forall_mem_append.mpr
      ⟨hargs.2, fun _ => hQ.arg hargs.1⟩)) he
  next => simp at he
  next => simp at he

theorem keeps_onParts {f : Expr → List Expr → Expr}
    (hf : ∀ {head args}, Q head → (∀ a ∈ args, Q a) → Q (f head args)) :
    Keeps Q (onParts name f) := by
  intro args hargs e he
  unfold onParts at he
  split at he
  next head args' held items =>
    rw [List.forall_mem_cons] at hargs
    exact of_ok (hf (hQ.head hargs.1) fun _ => hQ.arg hargs.1) he
  next => simp at he
  next => simp at he

theorem keeps_length : Keeps Q length := by
  intro args _ e he
  unfold length at he
  split at he
  · exact of_ok (hQ.number _) he
  · exact of_ok (hQ.number _) he
  · simp at he
  · simp at he

end Parts

namespace Form

variable (hQ : Expr.Kept P Q)
include hQ

theorem keeps_hold : Keeps Q hold := by
  intro args hargs e he
  match args with
  | [] => simp [hold] at he
  | a :: _ => exact of_ok (hQ.holdForm (hargs a (by simp))) he

theorem keeps_releaseHold : Keeps Q releaseHold := by
  intro args hargs e he
  match args with
  | [] => simp [releaseHold] at he
  | a :: _ => exact of_ok (hQ.releaseHold (hargs a (by simp))) he

theorem holds_rules {rules' : List Rule} (h : Q e) (hrules : rules name e = .ok rules') :
    ∀ rule ∈ rules', rule.Holds Q := by
  cases e with
  | number _ | string _ | symbol _ _ => simp [rules] at hrules
  | apply head args held =>
      obtain rfl := Except.ok.inj hrules
      intro rule hrule
      obtain ⟨entry, hentry, hsome⟩ := List.mem_filterMap.mp hrule
      rw [rule?] at hsome
      split at hsome
      next pattern value _ heq =>
        obtain rfl := Option.some.inj hsome
        have hparts : ∀ a ∈ entry.args, Q a := fun _ => hQ.of_mem (hQ.arg h hentry)
        exact ⟨hparts pattern (by simp [heq]), hparts value (by simp [heq])⟩
      next => simp at hsome

theorem keeps_replace (s : Sharing) : Keeps Q (replace s) := by
  intro args hargs e he
  unfold replace at he
  split at he
  next a entries _ =>
    cases hrules : rules "Replace" entries with
    | error failure => simp [hrules, Except.map] at he
    | ok rules' =>
        rw [hrules] at he
        exact of_ok (hQ.replace (holds_rules hQ (hargs _ (by simp)) hrules)
          (hargs a (by simp))) he
  next => simp at he

theorem keeps_replaceAll (s : Sharing) : Keeps Q (replaceAll s) := by
  intro args hargs e he
  unfold replaceAll at he
  split at he
  next a entries _ =>
    cases hrules : rules "ReplaceAll" entries with
    | error failure => simp [hrules, Except.map] at he
    | ok rules' =>
        rw [hrules] at he
        exact of_ok (hQ.replaceAll (holds_rules hQ (hargs _ (by simp)) hrules)
          (hargs a (by simp))) he
  next => simp at he

end Form

/-! ### Strings -/

namespace Strings

variable (hQ : Expr.Kept P Q)
include hQ

theorem keeps_concat : Keeps Q concat := by
  intro args _ e he
  unfold concat at he
  split at he
  · exact of_ok (hQ.string _) he
  · simp at he

theorem keeps_substring : Keeps Q substring := by
  intro args _ e he
  unfold substring at he
  split at he
  · dsimp only at he
    split at he
    · simp at he
    · exact of_ok (hQ.string _) he
  · simp at he
  · simp at he

theorem keeps_split : Keeps Q split := by
  intro args _ e he
  unfold split at he
  split at he
  · split at he
    · refine of_ok (hQ.app (hQ.word _ (by decide)) fun a ha => ?_) he
      obtain ⟨piece, -, rfl⟩ := List.mem_map.mp ha
      exact hQ.string _
    · simp at he
  · simp at he
  · simp at he

/-- A text that is made a symbol is a word, and a dollar sign is no word character. -/
theorem keeps_introduce : Keeps Q introduce := by
  intro args hargs e he
  unfold introduce at he
  split at he
  next text others =>
    dsimp only at he
    split at he
    next => exact of_ok (hQ.number _) he
    next =>
      split at he
      next hsymbol =>
        refine of_ok (hQ.word _ fun hdollar => ?_) he
        rw [isSymbolText, Bool.and_eq_true, List.all_eq_true] at hsymbol
        exact absurd (hsymbol.2 _ hdollar) (by decide)
      next => exact of_ok (hQ.app (hQ.word _ (by decide)) hargs) he
  next => simp at he
  next => simp at he

end Strings

namespace Search

variable (hQ : Expr.Kept P Q)
include hQ

theorem keeps_search : Keeps Q search := by
  intro args _ e he
  unfold search at he
  split at he
  · split at he
    next regex _ =>
      refine of_ok ?_ he
      cases regex.find? _ with
      | none => exact hQ.app (hQ.word _ (by decide)) (by simpa using hQ.ofBool false)
      | some found =>
          refine hQ.app (hQ.word _ (by decide)) (List.forall_mem_cons.mpr ⟨hQ.number _, ?_⟩)
          exact List.forall_mem_singleton.mpr (hQ.number _)
    next => simp at he
  · simp at he
  · simp at he

end Search

end Reduct.Operation
