import Reduct.Proofs.Rule.Weight
import Reduct.Rule.Set

/-!
# Rule sets are sorted

A rule set finds the place of a new rule by halving, which says where the heavier rules begin only
as long as the list is sorted by weight. It stays sorted: an equal pattern has an equal weight
(`ofPattern_eq_of_same`), so changing a rule where it stands changes no weight.

What the list is, is said by an association list that knows no weights (`declareAll`): a pattern
that is there has its rule changed, a new one comes last, one withdrawn goes. The rule set is the
stable sort of that list by weight. Two sorted lists are the same as soon as they have the same
rules of each weight in the same order (`eq_of_sorted`), and each declaration does to the rules of
one weight in the set what it does to those in the association list (`Stored`).
-/

namespace Reduct

open Text

namespace RuleSet

/-! ### The place of a new rule -/

section Boundary

variable {α : Type} {p : α → Bool} {xs ys : List α}

/-- The property of an item tells on which side of the boundary it is. -/
theorem any_getElem?_append_iff (hxs : ∀ x ∈ xs, p x) (hys : ∀ y ∈ ys, p y = false) (i : Nat) :
    (xs ++ ys)[i]?.any p ↔ i < xs.length := by
  by_cases hi : i < xs.length
  · simp [List.getElem?_append_left hi, hi, hxs]
  · rw [List.getElem?_append_right (by omega)]
    cases hy : ys[i - xs.length]? with
    | none => simp [hi]
    | some y => simp [hi, hys y (List.mem_of_getElem? hy)]

/-- One step of the halving. -/
theorem boundary_halve {items : List α} (h : 2 ≤ items.length) :
    boundary p items =
      if items[items.length / 2]?.any p then
        items.length / 2 + boundary p (items.drop (items.length / 2))
      else boundary p (items.take (items.length - items.length / 2)) := by
  match items, h with
  | x :: y :: zs, _ => rw [boundary]

/-- **Halving finds the boundary** of a list that starts with the items of a property and has
none further on. -/
theorem boundary_append (hxs : ∀ x ∈ xs, p x) (hys : ∀ y ∈ ys, p y = false) :
    boundary p (xs ++ ys) = xs.length := by
  induction hn : (xs ++ ys).length using Nat.strong_induction_on generalizing xs ys with
  | h n ih =>
      subst hn
      have hlength : (xs ++ ys).length = xs.length + ys.length := List.length_append
      by_cases htwo : 2 ≤ (xs ++ ys).length
      · rw [boundary_halve htwo]
        generalize hhalf : (xs ++ ys).length / 2 = half
        simp only [any_getElem?_append_iff hxs hys]
        split
        next hside =>
          -- The boundary is in the second half.
          have hdrop : (xs ++ ys).drop half = xs.drop half ++ ys :=
            List.drop_append_of_le_length (by omega)
          rw [hdrop, ih _ (by rw [← hdrop, List.length_drop]; omega)
            (fun x hx => hxs x (List.mem_of_mem_drop hx)) hys rfl, List.length_drop]
          omega
        next hside =>
          -- It is in the first half, which has the middle item too if the length is odd.
          have htake : (xs ++ ys).take ((xs ++ ys).length - half) =
              xs ++ ys.take ((xs ++ ys).length - half - xs.length) := by
            rw [List.take_append, List.take_of_length_le (by omega)]
          rw [htake, ih _ (by rw [← htake, List.length_take]; omega) hxs
            (fun y hy => hys y (List.mem_of_mem_take hy)) rfl]
      · match xs, ys with
        | [], [] => rw [List.nil_append, boundary, List.length_nil]
        | [x], [] => simp [boundary, hxs]
        | [], [y] => simp [boundary, hys]
        | _ :: _ :: _, _ | [_], _ :: _ | [], _ :: _ :: _ => simp at htwo

end Boundary

/-- The rules are in ascending weight. -/
abbrev Sorted (rules : List Rule) : Prop := rules.Pairwise fun a b => a.weight.le b.weight

/-- No two rules have equal patterns. -/
abbrev Distinct (rules : List Rule) : Prop := rules.Pairwise fun a b => ¬ a.pattern.same b.pattern

/-- Every pattern is readable. -/
def Readable (rules : List Rule) : Prop := ∀ rule ∈ rules, rule.pattern.Readable

variable {new : Rule} {rules lighter heavier : List Rule}

/-- A sorted list falls into the rules that are no heavier than a new one and the heavier ones. -/
theorem Sorted.exists_split (h : Sorted rules) (new : Rule) :
    ∃ lighter heavier, rules = lighter ++ heavier ∧
      (∀ rule ∈ lighter, rule.weight.le new.weight) ∧
      ∀ rule ∈ heavier, rule.weight.le new.weight = false := by
  induction rules with
  | nil => exact ⟨[], [], rfl, by simp, by simp⟩
  | cons rule rules ih =>
      obtain ⟨hrule, hrules⟩ := List.pairwise_cons.mp h
      by_cases hle : rule.weight.le new.weight
      · obtain ⟨lighter, heavier, rfl, hlighter, hheavier⟩ := ih hrules
        exact ⟨rule :: lighter, heavier, rfl, List.forall_mem_cons.mpr ⟨hle, hlighter⟩, hheavier⟩
      · refine ⟨[], rule :: rules, rfl, by simp, ?_⟩
        refine List.forall_mem_cons.mpr ⟨by simpa using hle, fun other hother => ?_⟩
        by_contra hother'
        exact hle (Weight.le_trans (hrule other hother) (by simpa using hother'))

/-- In a sorted list the new rule comes right before the heavier ones. -/
theorem place_append (hlighter : ∀ rule ∈ lighter, rule.weight.le new.weight)
    (hheavier : ∀ rule ∈ heavier, rule.weight.le new.weight = false) :
    place new (lighter ++ heavier) = lighter ++ new :: heavier := by
  simp only [place]
  rw [boundary_append hlighter hheavier, List.take_left, List.drop_left]

/-- A new rule in its place keeps the list sorted. -/
theorem Sorted.place (h : Sorted rules) (new : Rule) : Sorted (RuleSet.place new rules) := by
  obtain ⟨lighter, heavier, rfl, hlighter, hheavier⟩ := h.exists_split new
  rw [place_append hlighter hheavier]
  obtain ⟨hl, hh, hlh⟩ := List.pairwise_append.mp h
  refine List.pairwise_append.mpr ⟨hl, List.pairwise_cons.mpr ⟨fun rule hrule => ?_, hh⟩, ?_⟩
  · have htotal := Weight.le_total new.weight rule.weight
    rwa [hheavier rule hrule, Bool.or_false] at htotal
  · intro a ha b hb
    rcases List.mem_cons.mp hb with rfl | hb
    · exact hlighter a ha
    · exact hlh a ha b hb

/-! ### The association list -/

/-- A declaration or a withdrawal. -/
inductive Change where
  | insert (rule : Rule)
  | remove (pattern : Expr)

namespace Change

/-- The pattern the change is about. -/
def pattern : Change → Expr
  | .insert rule => rule.pattern
  | .remove pattern => pattern

/-- The rule set after the change. -/
def run : Change → RuleSet → RuleSet
  | .insert rule, s => s.insert rule
  | .remove pattern, s => s.remove pattern

/-- The association list after the change. A pattern that is there has its rule exchanged in its
place, a new one comes last, and one withdrawn goes. -/
def declare : Change → List Rule → List Rule
  | .insert new, rules =>
      if rules.any fun rule => rule.pattern.same new.pattern then
        rules.map fun rule => if rule.pattern.same new.pattern then new else rule
      else rules ++ [new]
  | .remove pattern, rules => rules.filter fun rule => !rule.pattern.same pattern

end Change

/-- The rule set that changes make of the empty one. -/
def runAll (changes : List Change) : RuleSet := changes.foldl (fun s c => c.run s) {}

/-- The association list that changes make of the empty one. -/
def declareAll (changes : List Change) : List Rule :=
  changes.foldl (fun rules c => c.declare rules) []

/-! ### The rules of one weight -/

/-- The rules of one weight, in their order. -/
def ofWeight (w : Weight) (rules : List Rule) : List Rule :=
  rules.filter fun rule => decide (rule.weight = w)

theorem mem_ofWeight {w : Weight} {rule : Rule} :
    rule ∈ ofWeight w rules ↔ rule ∈ rules ∧ rule.weight = w := by
  simp [ofWeight]

theorem ofWeight_append (w : Weight) (xs ys : List Rule) :
    ofWeight w (xs ++ ys) = ofWeight w xs ++ ofWeight w ys :=
  List.filter_append ..

/-- **Sorted lists with the same rules of each weight are the same.** -/
theorem eq_of_sorted {xs ys : List Rule} (hxs : Sorted xs) (hys : Sorted ys)
    (h : ∀ w, ofWeight w xs = ofWeight w ys) : xs = ys := by
  induction xs generalizing ys with
  | nil =>
      cases ys with
      | nil => rfl
      | cons y ys => exact absurd (h y.weight) (by simp [ofWeight])
  | cons x xs ih =>
      cases ys with
      | nil => exact absurd (h x.weight) (by simp [ofWeight])
      | cons y ys =>
          obtain ⟨hx, hxs⟩ := List.pairwise_cons.mp hxs
          obtain ⟨hy, hys'⟩ := List.pairwise_cons.mp hys
          -- Each first rule is in the other list too, so neither is the heavier one.
          have hweight : x.weight = y.weight := by
            have hxmem : x ∈ ofWeight x.weight (y :: ys) := h x.weight ▸ mem_ofWeight.mpr (by simp)
            have hymem : y ∈ ofWeight y.weight (x :: xs) := h y.weight ▸ mem_ofWeight.mpr (by simp)
            rcases List.mem_cons.mp (mem_ofWeight.mp hxmem).1 with rfl | hxy
            · rfl
            · rcases List.mem_cons.mp (mem_ofWeight.mp hymem).1 with rfl | hyx
              · rfl
              · exact Weight.le_antisymm (hx y hyx) (hy x hxy)
          have hheads := h x.weight
          rw [ofWeight, ofWeight, List.filter_cons_of_pos (by simp),
            List.filter_cons_of_pos (by simp [hweight])] at hheads
          obtain rfl := (List.cons.inj hheads).1
          refine congrArg _ (ih hxs hys' fun w => ?_)
          have hw := h w
          simp only [ofWeight, List.filter_cons] at hw
          split at hw
          · exact (List.cons.inj hw).2
          · exact hw

/-- The association list in ascending weight; rules of one weight keep their places. -/
abbrev sortByWeight (rules : List Rule) : List Rule :=
  rules.mergeSort fun a b => a.weight.le b.weight

theorem weight_le_trans (a b c : Rule) (hab : a.weight.le b.weight) (hbc : b.weight.le c.weight) :
    a.weight.le c.weight :=
  Weight.le_trans hab hbc

theorem weight_le_total (a b : Rule) : a.weight.le b.weight || b.weight.le a.weight :=
  Weight.le_total a.weight b.weight

theorem sorted_sortByWeight (rules : List Rule) : Sorted (sortByWeight rules) :=
  List.pairwise_mergeSort weight_le_trans weight_le_total rules

/-- The stable sort keeps the rules of one weight in their order. -/
theorem ofWeight_sortByWeight (w : Weight) (rules : List Rule) :
    ofWeight w (sortByWeight rules) = ofWeight w rules := by
  have hclass : (ofWeight w rules).Pairwise fun a b => a.weight.le b.weight := by
    refine List.pairwise_of_forall_mem_list fun a ha b hb => ?_
    rw [(mem_ofWeight.mp ha).2, (mem_ofWeight.mp hb).2]
    exact Weight.le_refl w
  have hsublist : (ofWeight w rules).Sublist (sortByWeight rules) :=
    List.sublist_mergeSort weight_le_trans weight_le_total hclass List.filter_sublist
  have hsublist' : (ofWeight w rules).Sublist (ofWeight w (sortByWeight rules)) := by
    have h := hsublist.filter fun rule => decide (rule.weight = w)
    simpa only [ofWeight, List.filter_filter, Bool.and_self] using h
  have hlength : (ofWeight w rules).length = (ofWeight w (sortByWeight rules)).length :=
    ((List.mergeSort_perm rules _).filter _).length_eq.symm
  exact (hsublist'.eq_of_length hlength).symm

/-! ### Exchanging and withdrawing -/

section Distinct

variable {pattern : Expr} {rule : Rule}

theorem same_trans {a b c : Expr} (ha : a.Readable) (hb : b.Readable) (hc : c.Readable)
    (hab : a.same b) (hbc : b.same c) : a.same c := by
  rwa [Expr.same_congr_left ha hb hc hab]

theorem Distinct.perm {rules' : List Rule} (h : Distinct rules) (hperm : rules.Perm rules') :
    Distinct rules' :=
  (hperm.pairwise_iff fun {a b} hab => by rwa [Expr.same_comm]).mp h

/-- At most one rule has a pattern. -/
theorem Distinct.not_same (h : Distinct (rule :: rules)) (hr : Readable (rule :: rules))
    (hp : pattern.Readable) (hrule : rule.pattern.same pattern) :
    ∀ other ∈ rules, other.pattern.same pattern = false := by
  intro other hother
  have hor := hr other (by simp [hother])
  have hne := (List.pairwise_cons.mp h).1 other hother
  by_contra hsame
  rw [Bool.not_eq_false, Expr.same_comm] at hsame
  exact hne (same_trans (hr rule (by simp)) hp hor hrule hsame)

/-- The new rule for an equal pattern, the rule itself for any other. -/
def renewed (new rule : Rule) : Rule := if rule.pattern.same new.pattern then new else rule

theorem exchange_eq_map (h : Distinct rules) (hr : Readable rules)
    (hnew : new.pattern.Readable) : exchange new rules = rules.map (renewed new) := by
  induction rules with
  | nil => rfl
  | cons rule rules ih =>
      rw [exchange, List.map_cons]
      split
      next hsame =>
        have hrest : rules.map (renewed new) = rules := by
          conv_rhs => rw [← List.map_id rules]
          refine List.map_congr_left fun other hother => ?_
          rw [renewed, h.not_same hr hnew hsame other hother]
          rfl
        rw [hrest, renewed, if_pos hsame]
      next hsame =>
        rw [ih (List.pairwise_cons.mp h).2 fun r hmem => hr r (by simp [hmem]), renewed,
          if_neg hsame]

theorem eraseP_eq_filter (h : Distinct rules) (hr : Readable rules) (hp : pattern.Readable) :
    (rules.eraseP fun rule => rule.pattern.same pattern) =
      rules.filter fun rule => !rule.pattern.same pattern := by
  induction rules with
  | nil => rfl
  | cons rule rules ih =>
      cases hsame : rule.pattern.same pattern with
      | true =>
          rw [List.eraseP_cons_of_pos (by simp [hsame]), List.filter_cons_of_neg (by simp [hsame]),
            eq_comm, List.filter_eq_self]
          intro other hother
          rw [h.not_same hr hp hsame other hother]
          rfl
      | false =>
          rw [List.eraseP_cons_of_neg (by simp [hsame]), List.filter_cons_of_pos (by simp [hsame]),
            ih (List.pairwise_cons.mp h).2 fun r hmem => hr r (by simp [hmem])]

theorem renewed_readable (hnew : new.pattern.Readable) (hrule : rule.pattern.Readable) :
    (renewed new rule).pattern.Readable := by
  rw [renewed]
  split <;> assumption

theorem renewed_same (new rule : Rule) :
    rule.pattern.same (renewed new rule).pattern := by
  rw [renewed]
  split
  next hsame => exact hsame
  next => exact Expr.same_refl _

theorem renewed_weight (hnew : new.pattern.Readable) (hrule : rule.pattern.Readable) :
    (renewed new rule).weight = rule.weight :=
  (Weight.ofPattern_eq_of_same hrule (renewed_readable hnew hrule)
    (renewed_same new rule)).symm

end Distinct

/-! ### What a rule set stores -/

/-- The rules are those of the association list in ascending weight. -/
structure Stored (rules declared : List Rule) : Prop where
  sorted : Sorted rules
  ofWeight_eq (w : Weight) : ofWeight w rules = ofWeight w declared
  distinct : Distinct declared
  readable : Readable declared

namespace Stored

variable {declared : List Rule} {pattern : Expr}

theorem eq_sortByWeight (h : Stored rules declared) : rules = sortByWeight declared :=
  eq_of_sorted h.sorted (sorted_sortByWeight declared) fun w => by
    rw [h.ofWeight_eq, ofWeight_sortByWeight]

theorem perm (h : Stored rules declared) : rules.Perm declared := by
  rw [h.eq_sortByWeight]
  exact List.mergeSort_perm declared _

theorem rules_readable (h : Stored rules declared) : Readable rules := fun rule hrule =>
  h.readable rule (h.perm.mem_iff.mp hrule)

theorem rules_distinct (h : Stored rules declared) : Distinct rules :=
  h.distinct.perm h.perm.symm

theorem contains_eq (h : Stored rules declared) (pattern : Expr) :
    (RuleSet.mk rules).contains pattern = declared.any fun rule => rule.pattern.same pattern :=
  h.perm.any_eq

theorem nil : Stored [] [] := ⟨.nil, fun _ => rfl, .nil, by simp [Readable]⟩

/-- A new rule goes to its place. -/
theorem place (h : Stored rules declared) (hnew : new.pattern.Readable)
    (habsent : ∀ rule ∈ declared, rule.pattern.same new.pattern = false) :
    Stored (RuleSet.place new rules) (declared ++ [new]) := by
  have hsorted := h.sorted.place new
  obtain ⟨lighter, heavier, rfl, hlighter, hheavier⟩ := h.sorted.exists_split new
  rw [place_append hlighter hheavier] at hsorted ⊢
  refine ⟨hsorted, fun w => ?weights, ?distinct, ?readable⟩
  case weights =>
    have hw := h.ofWeight_eq w
    rw [ofWeight_append] at hw
    rw [ofWeight_append, ofWeight_append, ← hw, List.append_assoc]
    by_cases hweight : new.weight = w
    · -- The heavier rules have another weight.
      have hnone : ofWeight w heavier = [] := by
        refine List.filter_eq_nil_iff.mpr fun rule hrule hrw => ?_
        have hle := hheavier rule hrule
        rw [of_decide_eq_true hrw, hweight] at hle
        exact absurd (Weight.le_refl w) (by simp [hle])
      have hhead : ofWeight w (new :: heavier) = new :: ofWeight w heavier :=
        List.filter_cons_of_pos (by simpa using hweight)
      rw [hhead, hnone]
      simp [ofWeight, hweight]
    · simp [ofWeight, hweight]
  case distinct =>
    refine List.pairwise_append.mpr ⟨h.distinct, List.pairwise_singleton _ _, ?_⟩
    intro a ha b hb
    rw [List.mem_singleton.mp hb, habsent a ha]
    simp
  case readable =>
    intro rule hrule
    rcases List.mem_append.mp hrule with hrule | hrule
    · exact h.readable rule hrule
    · rwa [List.mem_singleton.mp hrule]

theorem ofWeight_map_renewed (hr : Readable rules) (hnew : new.pattern.Readable) (w : Weight) :
    ofWeight w (rules.map (renewed new)) = (ofWeight w rules).map (renewed new) := by
  rw [ofWeight, List.filter_map, ofWeight]
  congr 1
  refine List.filter_congr fun rule hrule => ?_
  rw [Function.comp_apply, renewed_weight hnew (hr rule hrule)]

/-- A rule with an equal pattern is exchanged where it stands. -/
theorem map_renewed (h : Stored rules declared) (hnew : new.pattern.Readable) :
    Stored (rules.map (renewed new)) (declared.map (renewed new)) := by
  refine ⟨?sorted, fun w => ?weights, ?distinct, ?readable⟩
  case sorted =>
    refine List.pairwise_map.mpr (h.sorted.imp_of_mem fun ha hb hle => ?_)
    rwa [renewed_weight hnew (h.rules_readable _ ha), renewed_weight hnew (h.rules_readable _ hb)]
  case weights =>
    rw [ofWeight_map_renewed h.rules_readable hnew, ofWeight_map_renewed h.readable hnew,
      h.ofWeight_eq]
  case distinct =>
    refine List.pairwise_map.mpr (h.distinct.imp_of_mem fun {a b} ha hb hne => ?_)
    have har := h.readable a ha
    have hbr := h.readable b hb
    rwa [← Expr.same_congr_left har (renewed_readable hnew har) (renewed_readable hnew hbr)
        (renewed_same new _),
      ← Expr.same_congr_right har hbr (renewed_readable hnew hbr) (renewed_same new _)]
  case readable =>
    intro rule hrule
    obtain ⟨old, hold, rfl⟩ := List.mem_map.mp hrule
    exact renewed_readable hnew (h.readable old hold)

theorem filter (h : Stored rules declared) (p : Rule → Bool) :
    Stored (rules.filter p) (declared.filter p) := by
  refine ⟨h.sorted.filter p, fun w => ?_, h.distinct.filter p, fun rule hrule => ?_⟩
  · have hcomm (rules : List Rule) : ofWeight w (rules.filter p) = (ofWeight w rules).filter p := by
      rw [ofWeight, List.filter_comm]
      rfl
    rw [hcomm, hcomm, h.ofWeight_eq]
  · exact h.readable rule (List.mem_of_mem_filter hrule)

/-- A change does to the rule set what it does to the association list. -/
theorem run {s : RuleSet} {c : Change} (h : Stored s.rules declared) (hc : c.pattern.Readable) :
    Stored (c.run s).rules (c.declare declared) := by
  cases c with
  | insert new =>
      rw [Change.run, Change.declare, RuleSet.insert, h.contains_eq new.pattern]
      split
      next =>
        rw [exchange_eq_map h.rules_distinct h.rules_readable hc]
        exact h.map_renewed hc
      next habsent => exact h.place hc (by simpa using habsent)
  | remove pattern =>
      have hpattern : pattern.Readable := hc
      rw [Change.run, Change.declare, RuleSet.remove,
        eraseP_eq_filter h.rules_distinct h.rules_readable hpattern]
      exact h.filter _

theorem runAll {changes : List Change} (h : ∀ c ∈ changes, c.pattern.Readable) :
    Stored (RuleSet.runAll changes).rules (declareAll changes) := by
  induction changes using List.reverseRecOn with
  | nil => exact .nil
  | append_singleton changes c ih =>
      rw [RuleSet.runAll, declareAll, List.foldl_append, List.foldl_append]
      exact (ih fun c hc => h c (by simp [hc])).run (h c (by simp))

/-! ### Which rule is used -/

/-- The rule used is the first of the lightest that accept the expression. -/
theorem exists_of_resolve? {e result : Expr} {sharing : Sharing} (h : Stored rules declared)
    (hresolve : (RuleSet.mk rules).resolve? e sharing = some result) :
    ∃ before rule after, declared = before ++ rule :: after ∧
      rule.resolve? e sharing = some result ∧
      (∀ other ∈ before, (other.resolve? e sharing).isSome →
        other.weight.le rule.weight = false) ∧
      ∀ other ∈ after, (other.resolve? e sharing).isSome → rule.weight.le other.weight := by
  obtain ⟨lighter, rule, others, rfl, hrule, hnone⟩ := List.findSome?_eq_some_iff.mp hresolve
  -- No accepting rule of the set is lighter than the one found.
  have hle : ∀ other ∈ declared, (other.resolve? e sharing).isSome →
      rule.weight.le other.weight := by
    intro other hother hsome
    rcases List.mem_append.mp (h.perm.mem_iff.mpr hother) with hlighter | hothers
    · simp [hnone other hlighter] at hsome
    · rcases List.mem_cons.mp hothers with rfl | hothers
      · exact Weight.le_refl _
      · exact (List.pairwise_cons.mp (List.pairwise_append.mp h.sorted).2.1).1 other hothers
  -- Among the rules of its weight it stands in the association list where it stands in the set.
  have hclass := h.ofWeight_eq rule.weight
  rw [ofWeight_append, ofWeight, ofWeight, List.filter_cons_of_pos (by simp), eq_comm, ofWeight,
    List.filter_eq_append_iff] at hclass
  obtain ⟨before, rest, rfl, hbefore, hrest⟩ := hclass
  obtain ⟨between, after, rfl, hbetween, -, -⟩ := List.filter_eq_cons_iff.mp hrest
  refine ⟨before ++ between, rule, after, by simp, hrule, fun other hother hsome => ?_,
    fun other hother => hle other (by simp [hother])⟩
  have hother' := hle other (by simp only [List.mem_append] at hother ⊢; tauto) hsome
  by_contra hle'
  have hweight : other.weight = rule.weight :=
    Weight.le_antisymm (by simpa using hle') hother'
  rcases List.mem_append.mp hother with hother | hother
  · have hmem : other ∈ lighter :=
      List.mem_of_mem_filter (hbefore ▸ List.mem_filter.mpr ⟨hother, by simpa using hweight⟩)
    simp [hnone other hmem] at hsome
  · exact hbetween other hother (by simpa using hweight)

theorem resolve?_eq_none_iff {e : Expr} {sharing : Sharing} (h : Stored rules declared) :
    (RuleSet.mk rules).resolve? e sharing = none ↔
      ∀ rule ∈ declared, rule.resolve? e sharing = none := by
  rw [resolve?, List.findSome?_eq_none_iff]
  exact ⟨fun hnone rule hrule => hnone rule (h.perm.mem_iff.mpr hrule),
    fun hnone rule hrule => hnone rule (h.perm.mem_iff.mp hrule)⟩

end Stored

/-! ### Building a rule set anew -/

/-- Declaring sorted rules with different patterns one after the other puts each last. -/
theorem foldl_insert_eq {before : List Rule} (hsorted : Sorted (before ++ rules))
    (hdistinct : Distinct (before ++ rules)) :
    rules.foldl RuleSet.insert ⟨before⟩ = ⟨before ++ rules⟩ := by
  induction rules generalizing before with
  | nil => rw [List.foldl_nil, List.append_nil]
  | cons rule rules ih =>
      have hcut : before ++ rule :: rules = (before ++ [rule]) ++ rules := by simp
      have hlighter : ∀ other ∈ before, other.weight.le rule.weight := fun other hother =>
        (List.pairwise_append.mp hsorted).2.2 other hother rule (by simp)
      have habsent : (RuleSet.mk before).contains rule.pattern = false := by
        refine List.any_eq_false.mpr fun other hother => ?_
        exact (List.pairwise_append.mp hdistinct).2.2 other hother rule (by simp)
      have hinsert : (RuleSet.mk before).insert rule = ⟨before ++ [rule]⟩ := by
        have hplace : place rule (before ++ []) = before ++ [rule] :=
          place_append hlighter (by simp)
        rw [List.append_nil] at hplace
        rw [RuleSet.insert, habsent, hplace]
        rfl
      rw [List.foldl_cons, hinsert, ih (hcut ▸ hsorted) (hcut ▸ hdistinct), hcut]

/-- **A rule set is the stable sort of what was declared.** -/
theorem runAll_eq_sortByWeight (changes : List Change) (h : ∀ c ∈ changes, c.pattern.Readable) :
    let s := runAll changes
    let declared := declareAll changes
    s.rules = declared.mergeSort (fun a b => a.weight.le b.weight) ∧
    s.rules.Pairwise (fun a b => a.weight.le b.weight) ∧
    s.rules.Pairwise (fun a b => ¬ a.pattern.same b.pattern) ∧
    (∀ e sharing, s.resolve? e sharing = none ↔
      ∀ rule ∈ declared, rule.resolve? e sharing = none) ∧
    (∀ e sharing result, s.resolve? e sharing = some result →
      ∃ before rule after, declared = before ++ rule :: after ∧
        rule.resolve? e sharing = some result ∧
        (∀ other ∈ before, (other.resolve? e sharing).isSome →
          other.weight.le rule.weight = false) ∧
        ∀ other ∈ after, (other.resolve? e sharing).isSome → rule.weight.le other.weight) ∧
    s.rules.foldl RuleSet.insert {} = s := by
  intro s declared
  have hstored : Stored s.rules declared := .runAll h
  exact ⟨hstored.eq_sortByWeight, hstored.sorted, hstored.rules_distinct,
    fun e sharing => hstored.resolve?_eq_none_iff,
    fun e sharing result => hstored.exists_of_resolve?,
    foldl_insert_eq hstored.sorted hstored.rules_distinct⟩

/-- A general rule that is declared first and declared again stays behind a special one. -/
theorem runAll_exchanged :
    let general : Expr := .call "f" [.call "Pattern" [.sym "x"]]
    let special : Expr := .call "f" [.sym "a"]
    let changes : List Change :=
      [.insert ⟨general, .sym "p"⟩, .insert ⟨special, .sym "q"⟩, .insert ⟨general, .sym "r"⟩]
    (∀ c ∈ changes, c.pattern.Readable) ∧
      (runAll changes).rules.map (fun rule => rule.value.render) = ["q", "r"] := by
  intro general special changes
  have hsym {name : String} (h : Undelimited name.toList) : (Expr.sym name).Readable := .symbol h
  have hcall {name : String} {arg : Expr} (h : Undelimited name.toList) (harg : arg.Readable) :
      (Expr.call name [arg]).Readable :=
    .apply (hsym h) (List.forall_mem_singleton.mpr harg)
  have hgeneral : general.Readable := hcall (by decide) (hcall (by decide) (hsym (by decide)))
  have hspecial : special.Readable := hcall (by decide) (hsym (by decide))
  have hchanges : ∀ c ∈ changes, c.pattern.Readable :=
    List.forall_mem_cons.mpr ⟨hgeneral, List.forall_mem_cons.mpr ⟨hspecial,
      List.forall_mem_singleton.mpr hgeneral⟩⟩
  refine ⟨hchanges, ?_⟩
  rw [(runAll_eq_sortByWeight changes hchanges).1]
  cbv

end RuleSet

end Reduct
