import Reduct.Evaluator
import Reduct.Proofs.Expr.Marks
import Reduct.Proofs.Expr.Sharing

/-!
# Properties that evaluation keeps

What evaluation makes of expressions consists of parts of them, of new applications, of numbers and
strings, and of symbols with fixed names. So a property of expressions that goes from parts to a new
application and back, and that holds of the rest, goes through every function that arranges
arguments or threads over lists (`Expr.Kept`). It may depend on the names of the symbols.

Two properties are kept in this way: one that says something about the name of each symbol
(`Expr.kept_names`), and that hold marks reach down.
-/

namespace Reduct.Expr

/-- The property `Q` of expressions is kept by evaluation if `P` holds of the names of new symbols,
and `P` holds of the names of the symbols that have `Q`. -/
structure Kept (P : String → Prop) (Q : Expr → Prop) : Prop extends Hereditary Q where
  plain : HoldsOfPlain P
  number (value : Float) : Q (.number value)
  string (text : String) : Q (.string text)
  sym {name : String} : P name → Q (.sym name)
  name {name : String} {held : Bool} : Q (.symbol name held) → P name
  holdForm {e : Expr} : Q e → Q e.holdForm
  releaseHold {e : Expr} : Q e → Q e.releaseHold

/-- A property of all names in an expression is kept, if evaluation may use the names that it uses
itself. -/
theorem kept_names {P : String → Prop} (hP : HoldsOfPlain P) : Kept P (Names P) where
  part {e d turn} he hd := by
    cases turn with
    | toHead =>
        cases he with
        | apply hhead _ => exact Option.some.inj hd ▸ hhead
        | number _ | string | symbol _ => simp [part?, application?] at hd
    | toArg index => exact he.of_mem (List.mem_of_getElem? hd)
  app := .apply
  plain := hP
  number _ := .number trivial
  string _ := .string
  sym := .symbol
  name := names_symbol.mp
  holdForm := .holdForm
  releaseHold := .releaseHold

namespace Kept

variable {P : String → Prop} {Q : Expr → Prop} (h : Kept P Q) {e : Expr} {es : List Expr}
include h

/-! ### The form of an expression -/

/-- A symbol that evaluation uses. -/
theorem word (name : String) (hname : '$' ∉ name.toList) : Q (.sym name) :=
  h.sym (h.plain name hname)

theorem of_symbol? {name : String} (he : Q e) (hname : e.symbol? = some name) : P name := by
  cases e with
  | symbol x held => exact Option.some.inj hname ▸ h.name he
  | number _ | string _ | apply _ _ _ => simp [symbol?] at hname

theorem of_owner? {name : String} (he : Q e) (hname : e.owner? = some name) : P name := by
  cases e with
  | symbol x held => exact Option.some.inj hname ▸ h.name he
  | apply head args held => exact h.of_symbol? (h.head he) hname
  | number _ | string _ => simp [owner?] at hname

theorem of_mem (he : Q e) {a : Expr} (ha : a ∈ e.args) : Q a := by
  cases e with
  | apply head args held => exact h.arg he ha
  | number _ | string _ | symbol _ _ => simp [Expr.args] at ha

theorem ofBool (b : Bool) : Q (ofBool b) := by
  cases b <;> exact h.word _ (by decide)

theorem list (hes : ∀ e ∈ es, Q e) : Q (.list es) := h.app (h.word "List" (by decide)) hes

theorem abort (he : Q e) (message : String) : Q (e.abort message) := by
  rw [Expr.abort]
  split
  · exact he
  · refine h.app (h.word "Abort" (by decide)) (List.forall_mem_cons.mpr ⟨he, ?_⟩)
    exact List.forall_mem_singleton.mpr (h.string message)

end Kept

/-! ### Arranging and threading -/

mutual

theorem Kept.spliced {P : String → Prop} {Q : Expr → Prop} (h : Kept P Q) (name : String) :
    ∀ {e : Expr}, Q e → ∀ d ∈ spliced name e, Q d
  | .apply head args held, he => by
      rw [Expr.spliced]
      split
      · exact h.splicedAll name fun _ => h.arg he
      · exact List.forall_mem_singleton.mpr he
  | .number _, he | .string _, he | .symbol .., he => List.forall_mem_singleton.mpr he

theorem Kept.splicedAll {P : String → Prop} {Q : Expr → Prop} (h : Kept P Q) (name : String) :
    ∀ {es : List Expr}, (∀ e ∈ es, Q e) → ∀ d ∈ splicedAll name es, Q d
  | [], _ => by simp [Expr.splicedAll]
  | e :: es, hes => by
      rw [List.forall_mem_cons] at hes
      exact List.forall_mem_append.mpr ⟨h.spliced name hes.1, h.splicedAll name hes.2⟩

end

namespace Kept

variable {P : String → Prop} {Q : Expr → Prop} (h : Kept P Q) {head : Expr} {args : List Expr}
include h

theorem slice (hargs : ∀ a ∈ args, Q a) (index : Nat) : ∀ a ∈ slice args index, Q a := by
  intro a ha
  obtain ⟨a, hmem, rfl⟩ := List.mem_map.mp ha
  split
  · cases hitem : a.args[index]? with
    | none => exact hargs a hmem
    | some item => exact h.of_mem (hargs a hmem) (List.mem_of_getElem? hitem)
  · exact hargs a hmem

theorem thread (hhead : Q head) (hargs : ∀ a ∈ args, Q a) : Q (thread head args) := by
  rw [Expr.thread]
  split
  · exact h.app hhead hargs
  · split
    · refine h.list fun a ha => ?_
      obtain ⟨index, -, rfl⟩ := List.mem_map.mp ha
      exact h.app hhead (h.slice hargs index)
    · exact h.abort (h.app hhead hargs) _

end Kept

end Reduct.Expr
