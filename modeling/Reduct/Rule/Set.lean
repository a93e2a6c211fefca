import Reduct.Rule

/-!
# Rule sets

The rules of one version of a symbol are tried from the lightest pattern on, and those of one
weight in the order in which they were declared. A pattern has at most one rule; declaring it
again changes the rule where it stands.
-/

namespace Reduct

/-- Rules in ascending weight. -/
structure RuleSet where
  rules : List Rule := []

namespace RuleSet

/-- Is there a rule for the pattern? -/
def contains (s : RuleSet) (pattern : Expr) : Bool :=
  s.rules.any fun rule => rule.pattern.same pattern

/-- Puts a rule in the place of the first one for an equal pattern. -/
def exchange (new : Rule) : List Rule → List Rule
  | [] => []
  | rule :: rest =>
    if rule.pattern.same new.pattern then new :: rest else rule :: exchange new rest

/-- How many items of a list come before the first without a property, found by halving. The list
is one in which no item with the property comes after one without it. -/
def boundary {α : Type} (p : α → Bool) : List α → Nat
  | [] => 0
  | [x] => if p x then 1 else 0
  | x :: y :: xs =>
    let items := x :: y :: xs
    let half := items.length / 2
    if items[half]?.any p then half + boundary p (items.drop half)
    else boundary p (items.take (items.length - half))
termination_by items => items.length
decreasing_by all_goals simp only [List.length_drop, List.length_take, List.length_cons]; omega

/-- Puts a rule before the first one that is heavier. -/
def place (new : Rule) (rules : List Rule) : List Rule :=
  let before := boundary (fun rule => rule.weight.le new.weight) rules
  rules.take before ++ new :: rules.drop before

/-- Declares a rule. -/
def insert (s : RuleSet) (new : Rule) : RuleSet :=
  if s.contains new.pattern then ⟨exchange new s.rules⟩ else ⟨place new s.rules⟩

/-- Withdraws the rule for a pattern. -/
def remove (s : RuleSet) (pattern : Expr) : RuleSet :=
  ⟨s.rules.eraseP fun rule => rule.pattern.same pattern⟩

/-- What the first rule that accepts the expression makes of it. -/
def resolve? (s : RuleSet) (e : Expr) (sharing : Sharing := .never) : Option Expr :=
  s.rules.findSome? fun rule => rule.resolve? e sharing

/-! ## What is there after a declaration -/

theorem mem_exchange {new rule : Rule} {rules : List Rule} (h : rule ∈ exchange new rules) :
    rule = new ∨ rule ∈ rules := by
  induction rules with
  | nil => simp [exchange] at h
  | cons first rest ih =>
      rw [exchange] at h
      split at h
      · exact (List.mem_cons.mp h).imp_right (List.mem_cons_of_mem first)
      · obtain rfl | h := List.mem_cons.mp h
        · exact .inr (List.mem_cons_self ..)
        · exact (ih h).imp_right (List.mem_cons_of_mem first)

theorem mem_place {new rule : Rule} {rules : List Rule} (h : rule ∈ place new rules) :
    rule = new ∨ rule ∈ rules := by
  rw [place, List.mem_append, List.mem_cons] at h
  obtain h | rfl | h := h
  · exact .inr (List.mem_of_mem_take h)
  · exact .inl rfl
  · exact .inr (List.mem_of_mem_drop h)

/-- A rule that is there after another was declared is that one or was there. -/
theorem mem_insert {s : RuleSet} {new rule : Rule} (h : rule ∈ (s.insert new).rules) :
    rule = new ∨ rule ∈ s.rules := by
  rw [insert] at h
  split at h
  · exact mem_exchange h
  · exact mem_place h

end RuleSet

end Reduct
