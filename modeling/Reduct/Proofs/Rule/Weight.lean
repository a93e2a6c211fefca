import Reduct.Proofs.Expr.Reading
import Reduct.Proofs.Expr.Variables
import Reduct.Rule

/-!
# The weight of a pattern

Weights are ordered totally, and the weight of a pattern is a matter of what the pattern is:
readable patterns that are the same have the same weight (`ofPattern_eq_of_same`), although `same`
compares texts where atoms of different kinds meet. What decides is that nothing but the symbol
`Pattern` reads like the head of a capture.
-/

namespace Reduct

namespace Weight

/-! ### The order of weights -/

theorem le_refl (a : Weight) : a.le a := by simp [le]

theorem le_trans {a b c : Weight} (hab : a.le b) (hbc : b.le c) : a.le c := by
  simp only [le, Bool.or_eq_true, Bool.and_eq_true, decide_eq_true_eq, beq_iff_eq] at *
  omega

theorem le_total (a b : Weight) : a.le b || b.le a := by
  simp only [le, Bool.or_eq_true, Bool.and_eq_true, decide_eq_true_eq, beq_iff_eq]
  omega

theorem le_antisymm {a b : Weight} (hab : a.le b) (hba : b.le a) : a = b := by
  obtain ⟨i, j⟩ := a
  obtain ⟨k, l⟩ := b
  simp only [le, Bool.or_eq_true, Bool.and_eq_true, decide_eq_true_eq, beq_iff_eq] at hab hba
  rw [mk.injEq]
  omega

end Weight

/-! ### Equal patterns -/

namespace Expr

/-- Only atoms are the same as a readable atom. -/
theorem isAtom_of_same {a b : Expr} (ha : a.Readable) (hatom : a.isAtom) (h : a.same b) :
    b.isAtom := by
  have hchars : [] ++ a.chars = [] ++ b.chars := by rw [chars_eq_of_same h]
  exact isAtom_of_append ha hatom hchars

/-- An expression that is the same as the head of a capture is one. -/
theorem eq_capture_of_same {g : Expr} {held : Bool} (h : (symbol "Pattern" held).same g) :
    ∃ held', g = .symbol "Pattern" held' := by
  have hname : IsVariable "Pattern" := .of_head (by simp [Text.isWord]) (by decide)
  exact symbol?_eq_some_iff.mp ((same_variable_iff hname rfl g).mp h)

end Expr

/-- Equal patterns are captures both or neither. -/
theorem Pattern.key?_isSome_of_same {f g : Expr} {as bs : List Expr} {held held' : Bool}
    (hf : f.same g) (has : Expr.sameAll as bs) (h : (key? (.apply f as held)).isSome) :
    (key? (.apply g bs held')).isSome := by
  unfold key? at h
  split at h
  next headHeld key others heq =>
    obtain ⟨rfl, rfl, -⟩ := Expr.apply.inj heq
    obtain ⟨_, rfl⟩ := Expr.eq_capture_of_same hf
    cases bs with
    | nil => simp [Expr.sameAll] at has
    | cons b bs => rfl
  next => simp at h

namespace Weight

open Reduct.Expr Reduct.Pattern

/-- The weight of an application goes by whether it is a capture. -/
theorem ofPattern_apply (f : Expr) (as : List Expr) (held : Bool) :
    ofPattern (.apply f as held) =
      if (key? (.apply f as held)).isSome then ⟨1, 1⟩
      else (⟨1, 0⟩ : Weight).add ((ofPattern f).add (ofPatterns as)) := by
  rw [ofPattern]
  cases key? (.apply f as held) <;> rfl

theorem key?_isSome_congr {f g : Expr} {as bs : List Expr} {held held' : Bool}
    (h : (Expr.apply f as held).same (.apply g bs held')) :
    (key? (.apply f as held)).isSome = (key? (.apply g bs held')).isSome := by
  have hparts : f.same g ∧ sameAll as bs := by simpa [same] using h
  have hparts' : g.same f ∧ sameAll bs as := by
    rw [same_comm] at h
    simpa [same] using h
  rw [Bool.eq_iff_iff]
  exact ⟨key?_isSome_of_same hparts.1 hparts.2, key?_isSome_of_same hparts'.1 hparts'.2⟩

mutual

/-- **Equal patterns have equal weights.** -/
theorem ofPattern_eq_of_same : ∀ {a b : Expr}, a.Readable → b.Readable → a.same b →
    ofPattern a = ofPattern b
  | .apply f as held, .apply g bs held', ha, hb, h => by
      have hparts : f.same g ∧ sameAll as bs := by simpa [same] using h
      rw [ofPattern_apply, ofPattern_apply, key?_isSome_congr h,
        ofPattern_eq_of_same ha.head_of_apply hb.head_of_apply hparts.1,
        ofPatterns_eq_of_sameAll (fun _ => ha.of_mem_args) (fun _ => hb.of_mem_args) hparts.2]
  | .apply .., .number _, _, _, h | .apply .., .string _, _, _, h | .number _, .apply .., _, _, h
  | .string _, .apply .., _, _, h => by simp [same] at h
  | .apply .., .symbol .., ha, hb, h => by
      rw [same_comm] at h
      exact absurd (isAtom_of_same hb rfl h) (by simp [isAtom])
  | .symbol .., .apply .., ha, _, h => absurd (isAtom_of_same ha rfl h) (by simp [isAtom])
  | .number _, .number _, _, _, _ | .number _, .string _, _, _, _ | .number _, .symbol .., _, _, _
  | .string _, .number _, _, _, _ | .string _, .string _, _, _, _ | .string _, .symbol .., _, _, _
  | .symbol .., .number _, _, _, _ | .symbol .., .string _, _, _, _
  | .symbol .., .symbol .., _, _, _ => rfl

/-- Patterns that are equal one by one have equal weights together. -/
theorem ofPatterns_eq_of_sameAll : ∀ {as bs : List Expr}, (∀ a ∈ as, a.Readable) →
    (∀ b ∈ bs, b.Readable) → sameAll as bs → ofPatterns as = ofPatterns bs
  | [], [], _, _, _ => rfl
  | a :: as, b :: bs, has, hbs, h => by
      have hparts : a.same b ∧ sameAll as bs := by simpa [sameAll] using h
      rw [ofPatterns, ofPatterns,
        ofPattern_eq_of_same (has a (by simp)) (hbs b (by simp)) hparts.1,
        ofPatterns_eq_of_sameAll (fun a ha => has a (by simp [ha]))
          (fun b hb => hbs b (by simp [hb])) hparts.2]
  | [], _ :: _, _, _, h | _ :: _, [], _, _, h => by simp [sameAll] at h

end

end Weight

end Reduct
