import Mathlib.Data.List.Forall2
import Mathlib.Data.Option.Basic
import Reduct.Proofs.Expr.Sharing
import Reduct.Proofs.Rule.Replacing
import Reduct.Proofs.Rule.Sorting

/-!
# Rewriting without marks

Matching, putting bindings in, weighing patterns, replacing, and declaring, withdrawing and using
rules: each commutes with clearing the marks of all it is given. This is so whichever nodes are
shared, in what is given with its marks and in what is given without.
-/

namespace Reduct

open Reduct.Expr

/-! ### Matching and putting bindings in -/

namespace Captures

/-- The bindings without marks. -/
def releaseHold (captures : Captures) : Captures :=
  captures.map fun capture => (capture.1.releaseHold, capture.2.releaseHold)

/-- The bindings differ at most in hold marks: keys and values are alike one by one. -/
def Alike : Captures → Captures → Prop :=
  List.Forall₂ fun x y => x.1.Alike y.1 ∧ x.2.Alike y.2

theorem alike_iff {captures captures' : Captures} :
    captures.Alike captures' ↔ captures.releaseHold = captures'.releaseHold := by
  rw [releaseHold, releaseHold, ← List.forall₂_eq_eq_eq, List.forall₂_map_left_iff,
    List.forall₂_map_right_iff]
  simp only [Prod.mk.injEq]
  rfl

theorem binding?_releaseHold (captures : Captures) (key : Expr) :
    captures.releaseHold.binding? key.releaseHold =
      (captures.binding? key).map Expr.releaseHold := by
  simp only [binding?, releaseHold, List.find?_map, Option.map_map, Function.comp_def,
    same_releaseHold]

theorem bind?_releaseHold (captures : Captures) (key value : Expr) :
    captures.releaseHold.bind? key.releaseHold value.releaseHold =
      (captures.bind? key value).map releaseHold := by
  rw [bind?, bind?, binding?_releaseHold]
  cases captures.binding? key with
  | none => simp [releaseHold]
  | some bound =>
      simp only [Option.map_some, same_releaseHold]
      split <;> rfl

end Captures

namespace Pattern

theorem key?_releaseHold (p : Expr) : key? p.releaseHold = (key? p).map Expr.releaseHold := by
  cases p with
  | number _ | string _ | symbol _ _ => rfl
  | apply head args held =>
      cases args with
      | nil => cases head <;> simp [Expr.releaseHold, releaseHolds, key?]
      | cons key others =>
          cases head with
          | symbol name marked =>
              by_cases hname : name = "Pattern"
              · subst hname
                rfl
              · simp [Expr.releaseHold, releaseHolds, key?, hname]
          | number _ | string _ | apply _ _ _ => simp [Expr.releaseHold, releaseHolds, key?]

theorem acceptsAtom_releaseHold (p e : Expr) :
    acceptsAtom p.releaseHold e.releaseHold = acceptsAtom p e := by
  cases p <;> cases e <;> rfl

mutual

/-- **Matching does not see marks,** and binds what it binds without them. -/
theorem extend?_releaseHold : ∀ (p e : Expr) (captures : Captures),
    extend? p.releaseHold e.releaseHold captures.releaseHold =
      (extend? p e captures).map Captures.releaseHold
  | .apply f as held, e, captures => by
      have hkey := key?_releaseHold (.apply f as held)
      rw [Expr.releaseHold] at hkey
      cases hkey' : key? (.apply f as held) with
      | some key =>
          simp only [Expr.releaseHold, extend?, hkey, hkey', Option.map_some]
          exact captures.bind?_releaseHold key e
      | none =>
          cases e with
          | apply g bs held' =>
              simp only [Expr.releaseHold, extend?, hkey, hkey', Option.map_none,
                extend?_releaseHold f g captures]
              cases extend? f g captures with
              | none => rfl
              | some middle => exact extendAll?_releaseHolds as bs middle
          | number _ | string _ | symbol _ _ =>
              simp only [Expr.releaseHold, extend?, hkey, hkey', Option.map_none]
  | .number _, e, captures | .string _, e, captures | .symbol .., e, captures => by
      rw [extend?_of_atom rfl, extend?_of_atom rfl, acceptsAtom_releaseHold]
      split <;> rfl

theorem extendAll?_releaseHolds : ∀ (ps es : List Expr) (captures : Captures),
    extendAll? (releaseHolds ps) (releaseHolds es) captures.releaseHold =
      (extendAll? ps es captures).map Captures.releaseHold
  | [], [], _ | [], _ :: _, _ | _ :: _, [], _ => rfl
  | p :: ps, e :: es, captures => by
      rw [releaseHolds, releaseHolds, extendAll?, extendAll?, extend?_releaseHold p e captures]
      cases extend? p e captures with
      | none => rfl
      | some middle => exact extendAll?_releaseHolds ps es middle

end

end Pattern

/-- **Putting bindings in does not see marks.** -/
theorem Captures.instantiate_releaseHold (captures : Captures) (template : Expr) (s s' : Sharing) :
    captures.releaseHold.instantiate template.releaseHold s' =
      (captures.instantiate template s).releaseHold :=
  captures.isPass_instantiate?.getD_releaseHold captures.releaseHold.isPass_instantiate?
    (fun _ _ => captures.binding?_releaseHold) template s s'

theorem Pattern.match?_releaseHold (p e : Expr) :
    match? p.releaseHold e.releaseHold = (match? p e).map Captures.releaseHold :=
  extend?_releaseHold p e []

/-! ### Rules -/

/-- Options that agree under `f` hold nothing both, or values that agree under `f`. -/
theorem optionRel_of_map_eq {α β : Type} {R : α → α → Prop} {f : α → β}
    (hR : ∀ x y, f x = f y → R x y) {a a' : Option α} (h : a.map f = a'.map f) :
    Option.Rel R a a' := by
  match a, a', h with
  | none, none, _ => exact .none
  | some x, some y, h => exact .some (hR x y (Option.some.inj h))

mutual

theorem Weight.ofPattern_releaseHold : ∀ p : Expr, ofPattern p.releaseHold = ofPattern p
  | .apply head args held => by
      have hkey := Pattern.key?_releaseHold (.apply head args held)
      rw [releaseHold] at hkey
      rw [releaseHold, ofPattern, ofPattern, hkey, ofPattern_releaseHold head,
        ofPatterns_releaseHolds args]
      cases Pattern.key? (.apply head args held) <;> rfl
  | .number _ | .string _ | .symbol .. => rfl

theorem Weight.ofPatterns_releaseHolds : ∀ ps : List Expr,
    ofPatterns (releaseHolds ps) = ofPatterns ps
  | [] => rfl
  | p :: ps => by
      rw [releaseHolds, ofPatterns, ofPatterns, ofPattern_releaseHold p,
        ofPatterns_releaseHolds ps]

end

namespace Rule

/-- The rule without marks. -/
def releaseHold (rule : Rule) : Rule := ⟨rule.pattern.releaseHold, rule.value.releaseHold⟩

/-- The rules differ at most in hold marks. -/
structure Alike (rule rule' : Rule) : Prop where
  pattern : rule.pattern.Alike rule'.pattern
  value : rule.value.Alike rule'.value

theorem alike_iff {rule rule' : Rule} : rule.Alike rule' ↔ rule.releaseHold = rule'.releaseHold := by
  rw [releaseHold, releaseHold, mk.injEq]
  exact ⟨fun h => ⟨h.pattern, h.value⟩, fun h => ⟨h.1, h.2⟩⟩

theorem forall₂_alike_iff {rules rules' : List Rule} :
    List.Forall₂ Alike rules rules' ↔ rules.map releaseHold = rules'.map releaseHold := by
  rw [← List.forall₂_eq_eq_eq, List.forall₂_map_left_iff, List.forall₂_map_right_iff]
  exact ⟨fun h => h.imp fun _ _ => alike_iff.mp, fun h => h.imp fun _ _ => alike_iff.mpr⟩

theorem weight_releaseHold (rule : Rule) : rule.releaseHold.weight = rule.weight :=
  Weight.ofPattern_releaseHold rule.pattern

theorem resolve?_releaseHold (rule : Rule) (e : Expr) (s s' : Sharing) :
    rule.releaseHold.resolve? e.releaseHold s' = (rule.resolve? e s).map Expr.releaseHold := by
  rw [resolve?, resolve?, releaseHold, Pattern.match?_releaseHold, Option.map_map, Option.map_map]
  exact congrArg (Option.map · _)
    (funext fun captures => captures.instantiate_releaseHold rule.value s s')

/-- Hold marks aside, a rule makes the same of an expression whichever nodes are shared. -/
theorem map_resolve? (rule : Rule) (e : Expr) (s s' : Sharing) :
    (rule.resolve? e s).map Expr.releaseHold = (rule.resolve? e s').map Expr.releaseHold := by
  rw [← rule.resolve?_releaseHold e s .never, rule.resolve?_releaseHold e s' .never]

end Rule

/-! ### Replacing -/

namespace Replace

variable (rules : List Rule)

theorem instance?_releaseHold (e : Expr) (s s' : Sharing) :
    instance? (rules.map Rule.releaseHold) e.releaseHold s' =
      (instance? rules e s).map Expr.releaseHold := by
  rw [instance?, instance?, List.findSome?_map, List.map_findSome?]
  congr 1
  funext rule
  exact rule.resolve?_releaseHold e s.made s'.made

/-- What is left of a node is the instance of a rule, if one accepts what was made of it. -/
theorem getD_visit? (e : Expr) (node? : Option Expr) (s : Sharing) :
    (visit? rules e node? s).getD e = (instance? rules (node?.getD e) s).getD (node?.getD e) := by
  rw [instance?_eq, visit?]
  rcases outcome? rules (node?.getD e) s with _ | _ | _ <;> rfl

/-- What is left of a node without marks, of which the same has been made but for the marks. -/
theorem getD_visit?_releaseHold {e : Expr} {node? node?' : Option Expr}
    (hnode : node?'.getD e.releaseHold = (node?.getD e).releaseHold) (s s' : Sharing) :
    (visit? (rules.map Rule.releaseHold) e.releaseHold node?' s').getD e.releaseHold =
      ((visit? rules e node? s).getD e).releaseHold := by
  rw [getD_visit?, getD_visit?, hnode, instance?_releaseHold rules _ s, getD_releaseHold]

mutual

theorem getD_replaceAll?_releaseHold : ∀ (e : Expr) (s s' : Sharing),
    (replaceAll? (rules.map Rule.releaseHold) e.releaseHold s').getD e.releaseHold =
      ((replaceAll? rules e s).getD e).releaseHold
  | .apply head args held, s, s' => by
      have hhead := getD_replaceAll?_releaseHold head s.first s'.first
      have hargs := getD_replaceAllIn?_releaseHolds args s.rest s'.rest
      rw [replaceAll?, Expr.releaseHold, replaceAll?]
      refine getD_visit?_releaseHold rules (e := .apply head args held) ?_ s s'
      rw [Expr.releaseHold, getD_rebuilt?, getD_rebuilt?, hhead, hargs]
      rfl
  | .number _, s, s' | .string _, s, s' | .symbol .., s, s' =>
      getD_visit?_releaseHold rules rfl s s'

theorem getD_replaceAllIn?_releaseHolds : ∀ (es : List Expr) (s s' : Sharing),
    (replaceAllIn? (rules.map Rule.releaseHold) (releaseHolds es) s').getD (releaseHolds es) =
      releaseHolds ((replaceAllIn? rules es s).getD es)
  | [], _, _ => rfl
  | e :: es, s, s' => by
      rw [releaseHolds, replaceAllIn?, replaceAllIn?, getD_rebuiltArgs?, getD_rebuiltArgs?,
        releaseHolds, getD_replaceAll?_releaseHold e s.first,
        getD_replaceAllIn?_releaseHolds es s.rest]

end

end Replace

theorem Expr.replace_releaseHold (rules : List Rule) (e : Expr) (s s' : Sharing) :
    e.releaseHold.replace (rules.map Rule.releaseHold) s' = (e.replace rules s).releaseHold :=
  (Replace.isPass_replace? rules).getD_releaseHold (Replace.isPass_replace? _)
    (fun s s' e => Replace.instance?_releaseHold rules e s s') e s s'

theorem Expr.replaceAll_releaseHold (rules : List Rule) (e : Expr) (s s' : Sharing) :
    e.releaseHold.replaceAll (rules.map Rule.releaseHold) s' =
      (e.replaceAll rules s).releaseHold :=
  Replace.getD_replaceAll?_releaseHold rules e s s'

/-! ### Rule sets -/

namespace RuleSet

/-- The rules without marks. -/
def releaseHold (s : RuleSet) : RuleSet := ⟨s.rules.map Rule.releaseHold⟩

/-- The rules differ at most in hold marks, one by one. -/
def Alike (s s' : RuleSet) : Prop := List.Forall₂ Rule.Alike s.rules s'.rules

theorem alike_iff {s s' : RuleSet} : s.Alike s' ↔ s.releaseHold = s'.releaseHold := by
  rw [Alike, Rule.forall₂_alike_iff, releaseHold, releaseHold, mk.injEq]

theorem contains_releaseHold (s : RuleSet) (pattern : Expr) :
    s.releaseHold.contains pattern.releaseHold = s.contains pattern := by
  rw [contains, contains, releaseHold, List.any_map]
  exact congrArg (s.rules.any ·) (funext fun rule => same_releaseHold rule.pattern pattern)

theorem exchange_releaseHold (new : Rule) (rules : List Rule) :
    exchange new.releaseHold (rules.map Rule.releaseHold) =
      (exchange new rules).map Rule.releaseHold := by
  induction rules with
  | nil => rfl
  | cons rule rules ih =>
      rw [List.map_cons, exchange, exchange, ih]
      simp only [Rule.releaseHold, same_releaseHold]
      split <;> rfl

/-- Halving sees the items only through the property. -/
theorem boundary_map {α β : Type} (p : β → Bool) (f : α → β) (xs : List α) :
    boundary p (xs.map f) = boundary (p ∘ f) xs := by
  induction hn : xs.length using Nat.strong_induction_on generalizing xs with
  | h n ih =>
      subst hn
      by_cases htwo : 2 ≤ xs.length
      · rw [boundary_halve htwo, boundary_halve (by rwa [List.length_map]), List.length_map,
          List.getElem?_map, Option.any_map, ← List.map_drop, ← List.map_take,
          ih _ (by rw [List.length_drop]; omega) _ rfl,
          ih _ (by rw [List.length_take]; omega) _ rfl]
        rfl
      · match xs with
        | [] | [_] => simp [boundary]
        | _ :: _ :: _ => simp at htwo

theorem place_releaseHold (new : Rule) (rules : List Rule) :
    place new.releaseHold (rules.map Rule.releaseHold) = (place new rules).map Rule.releaseHold := by
  simp only [place, boundary_map, Function.comp_def, Rule.weight_releaseHold, List.map_append,
    List.map_cons, List.map_take, List.map_drop]

theorem insert_releaseHold (s : RuleSet) (new : Rule) :
    s.releaseHold.insert new.releaseHold = (s.insert new).releaseHold := by
  have hcontains : s.releaseHold.contains new.releaseHold.pattern = s.contains new.pattern :=
    s.contains_releaseHold new.pattern
  rw [insert, insert, hcontains]
  split
  · exact congrArg mk (exchange_releaseHold new s.rules)
  · exact congrArg mk (place_releaseHold new s.rules)

theorem remove_releaseHold (s : RuleSet) (pattern : Expr) :
    s.releaseHold.remove pattern.releaseHold = (s.remove pattern).releaseHold := by
  simp only [remove, releaseHold, List.eraseP_map, Function.comp_def, Rule.releaseHold,
    same_releaseHold]

theorem resolve?_releaseHold (s : RuleSet) (e : Expr) (sharing sharing' : Sharing) :
    s.releaseHold.resolve? e.releaseHold sharing' = (s.resolve? e sharing).map Expr.releaseHold := by
  simp only [resolve?, releaseHold, List.findSome?_map, List.map_findSome?, Function.comp_def,
    Rule.resolve?_releaseHold _ e sharing sharing']

end RuleSet

end Reduct
