import Reduct.Proofs.Rule.Precedence

/-!
# The rule for a symbol comes first

Of the patterns that a symbol owns, the symbol itself is the only one that is no application, and it
weighs nothing. So among the rules of a version, the one for the symbol stands before all others
(`RuleSet.SymbolFirst`). This holds although rules need not be sorted by weight: a place that is
found by halving is behind the first rule whenever that one is no heavier, and a rule for a symbol
is never exchanged for one of an application, since their texts differ.
-/

namespace Reduct

namespace RuleSet

variable {name : String} {rules : List Rule} {new : Rule} {s : RuleSet}

/-- All patterns are owned by the symbol, and all after the first are applications. -/
structure SymbolFirst (name : String) (rules : List Rule) : Prop where
  owner : ∀ rule ∈ rules, rule.pattern.owner? = some name
  others : ∀ rule ∈ rules.tail, rule.pattern.application?.isSome

theorem symbolFirst_nil (name : String) : SymbolFirst name [] := ⟨by simp, by simp⟩

/-- A pattern with an owner that is no application is the symbol. -/
theorem eq_symbol_of_owner {p : Expr} (howner : p.owner? = some name)
    (happ : ¬ p.application?.isSome) : ∃ held, p = .symbol name held := by
  cases p with
  | symbol _ held => exact ⟨held, congrArg (Expr.symbol · held) (Option.some.inj howner)⟩
  | number _ | string _ => simp [Expr.owner?] at howner
  | apply head args held => simp [Expr.application?] at happ

/-- An application of a symbol does not read like the symbol: its text is longer. -/
theorem not_same_symbol {p : Expr} {held : Bool} (howner : p.owner? = some name)
    (happ : p.application?.isSome) : p.same (.symbol name held) = false := by
  cases p with
  | number _ | string _ | symbol _ _ => simp [Expr.application?] at happ
  | apply head args held' =>
      cases head with
      | number _ | string _ | apply _ _ _ => simp [Expr.owner?, Expr.symbol?] at howner
      | symbol _ marked =>
          obtain rfl := Option.some.inj howner
          simp [Expr.same, Expr.chars]

/-- Patterns that read alike and have the owner are both applications, or neither is. -/
theorem isSome_application?_of_same {p q : Expr} (hp : p.owner? = some name)
    (hq : q.owner? = some name) (h : p.same q) (happ : q.application?.isSome) :
    p.application?.isSome := by
  by_contra hnot
  obtain ⟨held, rfl⟩ := eq_symbol_of_owner hp hnot
  rw [Expr.same_comm, not_same_symbol hq happ] at h
  simp at h

/-- A boundary is behind a first item with the property, wherever it is. -/
theorem boundary_pos {α : Type} {p : α → Bool} {x : α} (xs : List α) (h : p x) :
    0 < boundary p (x :: xs) := by
  induction hn : xs.length using Nat.strong_induction_on generalizing xs with
  | h n ih =>
      cases xs with
      | nil => simp [boundary, h]
      | cons y ys =>
          subst hn
          rw [boundary_halve (by simp)]
          have hhalf : 0 < (x :: y :: ys).length / 2 := by simp only [List.length_cons]; omega
          split
          next => omega
          next =>
            -- What is left of the items begins with the same one and is shorter.
            obtain ⟨k, hk⟩ : ∃ k, (x :: y :: ys).length - (x :: y :: ys).length / 2 = k + 1 :=
              Nat.exists_eq_add_one.mpr (by omega)
            rw [hk, List.take_succ_cons]
            refine ih _ ?_ _ rfl
            simp only [List.length_take, List.length_cons] at hk hhalf ⊢
            omega

/-- A symbol weighs nothing. -/
theorem weight_symbol_le (held : Bool) (w : Weight) :
    (Weight.ofPattern (.symbol name held)).le w := by
  have hsymbol : Weight.ofPattern (.symbol name held) = {} := rfl
  rw [hsymbol, Weight.le]
  cases w.applications <;> simp

/-- An application is heavier than a symbol. -/
theorem weight_le_symbol {p : Expr} (happ : p.application?.isSome) (held : Bool) :
    (Weight.ofPattern p).le (.ofPattern (.symbol name held)) = false := by
  cases p with
  | number _ | string _ | symbol _ _ => simp [Expr.application?] at happ
  | apply head args held' =>
      rw [Weight.ofPattern_apply]
      split <;> simp [Weight.ofPattern, Weight.le, Weight.add]

namespace SymbolFirst

/-- If there is no rule for the symbol, all patterns are applications. -/
theorem isSome_of_not_contains {held : Bool} (h : SymbolFirst name s.rules)
    (hnot : s.contains (.symbol name held) = false) :
    ∀ rule ∈ s.rules, rule.pattern.application?.isSome := by
  intro rule hrule
  by_contra happ
  obtain ⟨held', hpattern⟩ := eq_symbol_of_owner (h.owner rule hrule) happ
  have hsame := List.any_eq_false.mp hnot rule hrule
  simp [hpattern, Expr.same] at hsame

theorem exchange (h : SymbolFirst name s.rules) (hnew : new.pattern.owner? = some name)
    (hcontains : s.contains new.pattern) : SymbolFirst name (RuleSet.exchange new s.rules) := by
  refine ⟨fun rule hrule => ?_, ?_⟩
  · obtain rfl | hrule := mem_exchange hrule
    · exact hnew
    · exact h.owner rule hrule
  · obtain ⟨rules⟩ := s
    cases rules with
    | nil => simp [RuleSet.exchange]
    | cons first rest =>
        rw [RuleSet.exchange]
        split
        next => exact h.others
        next hfirst =>
          intro rule hrule
          obtain rfl | hrule := mem_exchange hrule
          · -- A rule that is exchanged further on is one for an application.
            obtain ⟨old, hold, hsame⟩ : ∃ old ∈ rest, old.pattern.same rule.pattern := by
              simpa [contains, hfirst] using hcontains
            rw [Expr.same_comm] at hsame
            exact isSome_application?_of_same hnew
              (h.owner old (List.mem_cons_of_mem first hold)) hsame (h.others old hold)
          · exact h.others rule hrule

theorem place (h : SymbolFirst name s.rules) (hnew : new.pattern.owner? = some name)
    (hnot : s.contains new.pattern = false) : SymbolFirst name (RuleSet.place new s.rules) := by
  refine ⟨fun rule hrule => ?_, ?_⟩
  · obtain rfl | hrule := mem_place hrule
    · exact hnew
    · exact h.owner rule hrule
  by_cases happ : new.pattern.application?.isSome
  · obtain ⟨rules⟩ := s
    cases rules with
    | nil => simp [RuleSet.place, boundary]
    | cons first rest =>
        by_cases hfirst : first.pattern.application?.isSome
        · -- All are applications, wherever the new one goes.
          intro rule hrule
          obtain rfl | hrule := mem_place (List.mem_of_mem_tail hrule)
          · exact happ
          · obtain rfl | hrule := List.mem_cons.mp hrule
            · exact hfirst
            · exact h.others rule hrule
        · obtain ⟨held, hpattern⟩ := eq_symbol_of_owner (h.owner first (by simp)) hfirst
          have hle : first.weight.le new.weight := by
            rw [Rule.weight, hpattern]
            exact weight_symbol_le held new.weight
          obtain ⟨before, hbefore⟩ : ∃ before,
              boundary (fun rule => rule.weight.le new.weight) (first :: rest) = before + 1 :=
            Nat.exists_eq_add_one.mpr (boundary_pos rest hle)
          intro rule hrule
          simp only [RuleSet.place, hbefore, List.take_succ_cons, List.drop_succ_cons,
            List.cons_append, List.tail_cons, List.mem_append, List.mem_cons] at hrule
          obtain hrule | rfl | hrule := hrule
          · exact h.others rule (List.mem_of_mem_take hrule)
          · exact happ
          · exact h.others rule (List.mem_of_mem_drop hrule)
  · obtain ⟨held, hpattern⟩ := eq_symbol_of_owner hnew happ
    rw [hpattern] at hnot
    have hall := h.isSome_of_not_contains hnot
    have hheavier : ∀ rule ∈ s.rules, rule.weight.le new.weight = false := by
      intro rule hrule
      rw [Rule.weight, Rule.weight, hpattern]
      exact weight_le_symbol (hall rule hrule) held
    have hplace := @place_append new [] s.rules (by simp) hheavier
    rw [List.nil_append] at hplace
    rw [hplace]
    exact hall

/-- A declaration keeps the rule for the symbol first. -/
theorem insert (h : SymbolFirst name s.rules) (hnew : new.pattern.owner? = some name) :
    SymbolFirst name (s.insert new).rules := by
  rw [RuleSet.insert]
  cases hcontains : s.contains new.pattern with
  | true => exact h.exchange hnew hcontains
  | false => exact h.place hnew hcontains

theorem remove (h : SymbolFirst name s.rules) (pattern : Expr) :
    SymbolFirst name (s.remove pattern).rules := by
  refine ⟨fun rule hrule => h.owner rule (List.mem_of_mem_eraseP hrule), ?_⟩
  obtain ⟨rules⟩ := s
  cases rules with
  | nil => simp [RuleSet.remove]
  | cons first rest =>
      rw [RuleSet.remove, List.eraseP_cons]
      cases first.pattern.same pattern with
      | true => exact fun rule hrule => h.others rule (List.mem_of_mem_tail hrule)
      | false => exact fun rule hrule => h.others rule (List.mem_of_mem_eraseP hrule)

end SymbolFirst

end RuleSet

end Reduct
