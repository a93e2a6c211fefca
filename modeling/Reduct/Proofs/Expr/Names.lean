import Reduct.Expr.Change
import Reduct.Proofs.Expr.Atoms

/-!
# The names in an expression

A property of symbol names can hold of all symbols in an expression (`Expr.Names`). Then it holds of
those in its parts, and marks make no difference.
-/

namespace Reduct

/-- The property holds of every name without a dollar sign. Such are the words of a source text and
the names that evaluation uses itself. -/
def HoldsOfPlain (P : String → Prop) : Prop := ∀ name : String, '$' ∉ name.toList → P name

namespace Expr

variable {P Q : String → Prop} {e head : Expr} {es args : List Expr} {name : String} {held : Bool}

/-- Every symbol in the expression, at any depth, has a name with the property. -/
abbrev Names (P : String → Prop) : Expr → Prop := Atoms (fun _ => True) P

/-! ### The form of an expression -/

@[simp] theorem names_number (value : Float) : (number value).Names P := .number trivial

@[simp] theorem names_string (text : String) : (string text).Names P := .string

@[simp] theorem names_symbol : (symbol name held).Names P ↔ P name := by
  refine ⟨fun h => ?_, .symbol⟩
  cases h with
  | symbol hname => exact hname

@[simp] theorem names_apply :
    (apply head args held).Names P ↔ head.Names P ∧ ∀ a ∈ args, a.Names P :=
  ⟨fun h => ⟨h.head_of_apply, fun _ ha => h.of_mem_args ha⟩, fun h => .apply h.1 h.2⟩

namespace Atoms

variable {N : Float → Prop}

theorem mono (hPQ : ∀ name, P name → Q name) (h : Atoms N P e) : Atoms N Q e := by
  induction h with
  | number hvalue => exact .number hvalue
  | string => exact .string
  | symbol hname => exact .symbol (hPQ _ hname)
  | apply _ _ ihhead ihargs => exact .apply ihhead ihargs

theorem holdForm (h : Atoms N P e) : Atoms N P e.holdForm := by
  induction h with
  | number hvalue => exact .number hvalue
  | string => exact .string
  | symbol hname => exact .symbol hname
  | apply _ _ ihhead ihargs =>
      rw [Expr.holdForm, holdForms_eq_map]
      exact .apply ihhead (by simpa using ihargs)

theorem releaseHold (h : Atoms N P e) : Atoms N P e.releaseHold := by
  induction h with
  | number hvalue => exact .number hvalue
  | string => exact .string
  | symbol hname => exact .symbol hname
  | apply _ _ ihhead ihargs =>
      rw [Expr.releaseHold, releaseHolds_eq_map]
      exact .apply ihhead (by simpa using ihargs)

theorem of_symbol? (h : Atoms N P e) (hname : e.symbol? = some name) : P name := by
  cases h with
  | symbol hP => exact Option.some.inj hname ▸ hP
  | number _ | string | apply _ _ => simp [symbol?] at hname

theorem of_owner? (h : Atoms N P e) (hname : e.owner? = some name) : P name := by
  cases h with
  | symbol hP => exact Option.some.inj hname ▸ hP
  | apply hhead _ => exact hhead.of_symbol? hname
  | number _ | string => simp [owner?] at hname

theorem of_mem (h : Atoms N P e) {a : Expr} (ha : a ∈ e.args) : Atoms N P a := by
  cases h with
  | apply _ hargs => exact hargs a ha
  | number _ | string | symbol _ => simp [Expr.args] at ha

end Atoms

/-! ### Passes -/

theorem getD_rebuiltArgs? {e' : Option Expr} {es' : Option (List Expr)} :
    (rebuiltArgs? e es e' es').getD (e :: es) = e'.getD e :: es'.getD es := by
  cases e' <;> cases es' <;> rfl

/-- What a pass makes of arguments are the results of the pass over each. -/
theorem getD_passAll {pass : Expr → Option Expr} {passAll : List Expr → Option (List Expr)}
    (hnil : passAll [] = none)
    (hcons : ∀ e es, passAll (e :: es) = rebuiltArgs? e es (pass e) (passAll es))
    (es : List Expr) : (passAll es).getD es = es.map fun e => (pass e).getD e := by
  induction es with
  | nil => simp [hnil]
  | cons e es ih =>
      rw [hcons, getD_rebuiltArgs?, ih, List.map_cons]

/-- What a pass makes of an application is an application of the results, or is left alone. -/
theorem getD_rebuilt? (head' : Option Expr) (args' : Option (List Expr)) :
    (rebuilt? head args head' args').getD (apply head args held) =
      apply (head'.getD head) (args'.getD args) (held && head'.isNone && args'.isNone) := by
  cases head' <;> cases args' <;> simp [rebuilt?]

end Expr

end Reduct
