import Reduct.Proofs.Expr.Positions
import Reduct.Proofs.Number.ReadBack
import Reduct.Expr.Order
import Reduct.Text.Word

/-!
# Variables

Expressions are compared as they read, so what is equal to a symbol depends on how the symbol is
spelled: it can be a number, a string literal or an application. A name that consists of word
characters and is not the text of a number is safe (`IsVariable`). Nothing is equal to a symbol of
such a name but symbols of that name (`Expr.same_variable_iff`), and a key or a parameter of such a
name stands for these alone.
-/

namespace Reduct

/-- The name reads like nothing but a name. -/
structure IsVariable (name : String) : Prop where
  isWord : ∀ c ∈ name.toList, Text.isWord c
  notNumber : ∀ x : Float, Numeral.chars x ≠ name.toList

/-- The text of a number begins with a digit or a sign, or it is one of two words. -/
theorem Numeral.head?_chars (x : Float) :
    ∃ c, (chars x).head? = some c ∧ (c.isDigit || c == '-' || c == 'N' || c == 'i') := by
  by_cases hx : x.isFinite
  · obtain ⟨ds, y, hplain, -, ⟨htext, -⟩ | ⟨htext, -⟩⟩ := chars_finite hx
    · obtain ⟨c, rest, rfl, hc⟩ := hplain.exists_cons
      exact ⟨c, by rw [htext]; rfl, by simp [hc]⟩
    · exact ⟨'-', by rw [htext]; rfl, rfl⟩
  · rcases chars_of_not_finite hx with ⟨htext, -⟩ | ⟨htext, -⟩ | ⟨htext, -⟩ <;>
      exact ⟨_, by rw [htext]; rfl, rfl⟩

/-- Names of word characters that begin like no number. -/
theorem IsVariable.of_head {name : String} (hword : ∀ c ∈ name.toList, Text.isWord c)
    (hhead : name.toList.head?.any fun c => !(c.isDigit || c == '-' || c == 'N' || c == 'i')) :
    IsVariable name := by
  refine ⟨hword, fun x hx => ?_⟩
  obtain ⟨c, hc, hkind⟩ := Numeral.head?_chars x
  rw [hx] at hc
  rw [hc, Option.any_some, hkind] at hhead
  simp at hhead

namespace Expr

theorem symbol?_eq_some_iff {e : Expr} {name : String} :
    e.symbol? = some name ↔ ∃ held, e = .symbol name held := by
  cases e <;> simp [symbol?]

/-- **Only symbols of its name are equal to a variable.** -/
theorem same_variable_iff {key : Expr} {name : String} (hname : IsVariable name)
    (hkey : key.symbol? = some name) (e : Expr) : key.same e ↔ e.symbol? = some name := by
  have hfree {c : Char} (hc : c ∈ name.toList) (hword : Text.isWord c = false) : False := by
    simp [hname.isWord c hc] at hword
  obtain ⟨held, rfl⟩ := symbol?_eq_some_iff.mp hkey
  cases e with
  | symbol other held' =>
      simp only [same, symbol?, beq_iff_eq, Option.some.injEq]
      exact eq_comm
  | number x => simpa [same, chars, symbol?] using (hname.notNumber x).symm
  | string text =>
      simp only [same, chars, symbol?, beq_iff_eq, reduceCtorEq, iff_false]
      intro h
      have hquote : '"' ∈ name.toList := by
        rw [h]
        simp [Text.quotedChars]
      exact hfree hquote (by decide)
  | apply head args held' =>
      simp only [same, symbol?, Bool.and_eq_true, beq_iff_eq, reduceCtorEq, iff_false]
      rintro ⟨hlast, -⟩
      exact hfree (List.mem_of_getLast? hlast) (by decide)

/-- The name of a symbol anywhere in an expression has the properties that hold of all its names. -/
theorem Everywhere.of_names {P : String → Prop} {e : Expr} (h : e.Names P) :
    e.Everywhere fun d => ∀ name, d.symbol? = some name → P name := by
  induction h with
  | number _ | string => exact .of_atom rfl (by simp [symbol?])
  | symbol hname => exact .of_atom rfl (by simpa [symbol?] using hname)
  | apply _ _ ihhead ihargs => exact .of_apply (by simp [symbol?]) ihhead ihargs

end Expr

end Reduct
