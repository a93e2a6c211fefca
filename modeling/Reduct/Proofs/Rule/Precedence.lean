import Reduct.Proofs.Rule.Sorting

/-!
# Which of two rules comes first

The weight of a pattern is the sum of what its parts weigh, wherever they stand. So a pattern in
which captures were filled in (`Pattern.Fills`) is lighter than the one it was made from, and in a
sorted rule set its rule comes first, whichever was declared first.

A rule set stays sorted as long as patterns that are the same weigh the same
(`Weight.Uniform`), for a rule is exchanged where it stands. Readable patterns are uniform. Others
need not be: a symbol may be spelled like an application, and then a rule is exchanged for one of
another weight (`RuleSet.insert_unsorted`). If no two of the patterns are the same nothing is
exchanged, and what rules make of an expression does not depend on the order in which they are
declared, provided that one of those that accept it is lighter than the others.
-/

namespace Reduct

open Text

/-! ### Filling in captures -/

namespace Pattern

/-- An atom, or an atom applied to nothing. -/
def IsPlain : Expr → Prop
  | .apply head args _ => head.isAtom ∧ args = []
  | _ => True

mutual

/-- `p` is `q` with `n` of its outermost captures replaced by atoms or by atoms applied to
nothing. -/
inductive Fills : Nat → Expr → Expr → Prop
  | keep (q : Expr) : Fills 0 q q
  | capture {p q key : Expr} : key? q = some key → IsPlain p → Fills 1 p q
  | apply {n m : Nat} {f g : Expr} {as bs : List Expr} {held held' : Bool} :
      key? (.apply g bs held') = none → Fills n f g → FillsAll m as bs →
        Fills (n + m) (.apply f as held) (.apply g bs held')

/-- Each of `ps` is the one of `qs` in its place with captures replaced, `n` together. -/
inductive FillsAll : Nat → List Expr → List Expr → Prop
  | nil : FillsAll 0 [] []
  | cons {n m : Nat} {p q : Expr} {ps qs : List Expr} :
      Fills n p q → FillsAll m ps qs → FillsAll (n + m) (p :: ps) (q :: qs)

end

end Pattern

namespace Weight

open Pattern

/-- No more of anything, and less of something if `n` is not zero. -/
structure Under (n : Nat) (a b : Weight) : Prop where
  applications : a.applications ≤ b.applications
  captures : a.captures ≤ b.captures
  lighter : 0 < n → a.applications < b.applications ∨ a.captures < b.captures

namespace Under

variable {n m : Nat} {a b c d : Weight}

theorem refl (a : Weight) : Under 0 a a := ⟨Nat.le_refl _, Nat.le_refl _, by simp⟩

theorem add (h : Under n a b) (h' : Under m c d) : Under (n + m) (a.add c) (b.add d) where
  applications := Nat.add_le_add h.applications h'.applications
  captures := Nat.add_le_add h.captures h'.captures
  lighter hpos := by
    have := h.applications
    have := h.captures
    have := h'.applications
    have := h'.captures
    simp only [Weight.add]
    rcases Nat.eq_zero_or_pos n with rfl | hn
    · have := h'.lighter (by omega)
      omega
    · have := h.lighter hn
      omega

/-- What is less of something is not as heavy. -/
theorem le_eq_false (h : Under n a b) (hn : 0 < n) : b.le a = false := by
  have happlications := h.applications
  have hcaptures := h.captures
  have hlighter := h.lighter hn
  simp only [le, Bool.or_eq_false_iff, Bool.and_eq_false_iff, decide_eq_false_iff_not,
    beq_eq_false_iff_ne]
  omega

end Under

theorem ofPattern_of_key? {q key : Expr} (h : key? q = some key) : ofPattern q = ⟨1, 1⟩ := by
  cases q with
  | apply head args held => rw [ofPattern, h]
  | number _ | string _ | symbol _ _ => simp [key?] at h

/-- What may take the place of a capture is lighter than it. -/
theorem under_of_isPlain {p : Expr} (h : IsPlain p) : Under 1 (ofPattern p) ⟨1, 1⟩ := by
  cases p with
  | apply head args held =>
      obtain ⟨hhead, rfl⟩ := h
      have hweight : ofPattern (.apply head [] held) = ⟨1, 0⟩ := by
        cases head <;> simp_all [ofPattern, ofPatterns, key?, add, Expr.isAtom]
      rw [hweight]
      exact ⟨by simp, by simp, by simp⟩
  | number _ | string _ | symbol _ _ =>
      exact ⟨by simp [ofPattern], by simp [ofPattern], by simp [ofPattern]⟩

/-- A pattern becomes a capture only if the capture that was its head is replaced. -/
theorem ofPattern_head_of_fills {n m : Nat} {f g key : Expr} {as bs : List Expr}
    {held held' : Bool} (hp : key? (.apply f as held) = some key)
    (hq : key? (.apply g bs held') = none) (hf : Fills n f g) (has : FillsAll m as bs) :
    ofPattern g = ⟨1, 1⟩ := by
  unfold key? at hp
  split at hp
  next marked key' others marked' heq =>
    obtain ⟨rfl, rfl, -⟩ := Expr.apply.inj heq
    cases has with
    | cons _ _ =>
        cases hf with
        | keep => simp [key?] at hq
        | capture hkey _ => exact ofPattern_of_key? hkey
  next => simp at hp

mutual

/-- **A pattern with captures filled in is lighter.** -/
theorem under_of_fills : ∀ {n : Nat} {p q : Expr}, Fills n p q →
    Under n (ofPattern p) (ofPattern q)
  | _, _, q, .keep _ => .refl (ofPattern q)
  | _, p, q, .capture hkey hp => by
      rw [ofPattern_of_key? hkey]
      exact under_of_isPlain hp
  | _, .apply f as held, .apply g bs held', .apply hkey hf has => by
      have hhead := under_of_fills hf
      have hargs := underAll_of_fillsAll has
      have hq : ofPattern (.apply g bs held') =
          (⟨1, 0⟩ : Weight).add ((ofPattern g).add (ofPatterns bs)) := by
        rw [ofPattern, hkey]
      rw [hq]
      cases hkey' : key? (.apply f as held) with
      | none =>
          have hsum := (Under.refl ⟨1, 0⟩).add (hhead.add hargs)
          rw [Nat.zero_add] at hsum
          rwa [ofPattern, hkey']
      | some key =>
          rw [ofPattern_of_key? hkey', ofPattern_head_of_fills hkey' hkey hf has]
          exact ⟨by simp [add], by simp [add], fun _ => .inl (by simp [add])⟩

/-- So it is with several patterns. -/
theorem underAll_of_fillsAll : ∀ {n : Nat} {ps qs : List Expr}, FillsAll n ps qs →
    Under n (ofPatterns ps) (ofPatterns qs)
  | _, [], [], .nil => .refl _
  | _, _ :: _, _ :: _, .cons hp hps => (under_of_fills hp).add (underAll_of_fillsAll hps)

end

/-! ### Sorted rule sets -/

/-- Those of the patterns that are the same weigh the same. -/
def Uniform (patterns : List Expr) : Prop :=
  ∀ a ∈ patterns, ∀ b ∈ patterns, a.same b → ofPattern a = ofPattern b

/-- Readable patterns are uniform. -/
theorem uniform_of_readable {patterns : List Expr} (h : ∀ p ∈ patterns, p.Readable) :
    Uniform patterns :=
  fun a ha b hb hsame => ofPattern_eq_of_same (h a ha) (h b hb) hsame

end Weight

namespace RuleSet

open Weight (Uniform)

variable {patterns : List Expr} {rules : List Rule} {new : Rule} {s : RuleSet}

theorem sorted_iff : Sorted rules ↔ (rules.map Rule.weight).Pairwise fun v w => v.le w := by
  rw [List.pairwise_map]

/-- The rules are sorted and have some of the patterns. -/
structure Ordered (patterns : List Expr) (rules : List Rule) : Prop where
  sorted : Sorted rules
  mem : ∀ rule ∈ rules, rule.pattern ∈ patterns

namespace Ordered

theorem nil (patterns : List Expr) : Ordered patterns [] := ⟨.nil, by simp⟩

/-- Exchanging a rule for one of its weight leaves all weights where they are. -/
theorem map_weight_exchange
    (h : ∀ rule ∈ rules, rule.pattern.same new.pattern → rule.weight = new.weight) :
    (exchange new rules).map Rule.weight = rules.map Rule.weight := by
  induction rules with
  | nil => rfl
  | cons rule rules ih =>
      rw [exchange]
      split
      next hsame => rw [List.map_cons, List.map_cons, h rule (by simp) hsame]
      next =>
        rw [List.map_cons, List.map_cons, ih fun other hother => h other (by simp [hother])]

theorem insert (h : Ordered patterns s.rules) (huniform : Uniform patterns)
    (hnew : new.pattern ∈ patterns) : Ordered patterns (s.insert new).rules := by
  refine ⟨?sorted, fun rule hrule => ?mem⟩
  case sorted =>
    rw [RuleSet.insert]
    split
    · have hweights : (exchange new s.rules).map Rule.weight = s.rules.map Rule.weight :=
        map_weight_exchange fun rule hrule =>
          huniform rule.pattern (h.mem rule hrule) new.pattern hnew
      rw [sorted_iff, hweights, ← sorted_iff]
      exact h.sorted
    · exact h.sorted.place new
  case mem =>
    obtain rfl | hrule := mem_insert hrule
    · exact hnew
    · exact h.mem rule hrule

theorem remove (h : Ordered patterns s.rules) (pattern : Expr) :
    Ordered patterns (s.remove pattern).rules :=
  ⟨h.sorted.sublist List.eraseP_sublist, fun rule hrule => h.mem rule (List.mem_of_mem_eraseP hrule)⟩

theorem runAll {changes : List Change} (huniform : Uniform patterns)
    (h : ∀ rule, Change.insert rule ∈ changes → rule.pattern ∈ patterns) :
    Ordered patterns (RuleSet.runAll changes).rules := by
  induction changes using List.reverseRecOn with
  | nil => exact .nil patterns
  | append_singleton changes c ih =>
      rw [RuleSet.runAll, List.foldl_append]
      have hbefore := ih fun rule hrule => h rule (by simp [hrule])
      cases c with
      | insert new => exact hbefore.insert huniform (h new (by simp))
      | remove pattern => exact hbefore.remove pattern

end Ordered

/-- The pattern that a change declares a rule for. -/
def Change.declared? : Change → Option Expr
  | .insert rule => some rule.pattern
  | .remove _ => none

/-- In a sorted list a lighter rule stands before a heavier one. -/
theorem Sorted.lt_of_lighter (h : Sorted rules) {i j : Nat} (hi : i < rules.length)
    (hj : j < rules.length) (hlighter : rules[j].weight.le rules[i].weight = false) : i < j := by
  rw [Sorted, List.pairwise_iff_getElem] at h
  by_contra hji
  rcases Nat.eq_or_lt_of_le (Nat.not_lt.mp hji) with heq | hlt
  · subst heq
    simp [Weight.le_refl] at hlighter
  · simp [h j i hj hi hlt] at hlighter

/-! ### Rules in any order -/

theorem place_perm (new : Rule) (rules : List Rule) : (place new rules).Perm (new :: rules) := by
  rw [place]
  refine List.perm_middle.trans ?_
  rw [List.take_append_drop]

/-- Rules with different patterns are stored by weight and none is lost, whichever comes first. -/
theorem foldl_insert_of_distinct (hsorted : Sorted s.rules)
    (hdistinct : Distinct (s.rules ++ rules)) :
    Sorted (rules.foldl RuleSet.insert s).rules ∧
      (rules.foldl RuleSet.insert s).rules.Perm (s.rules ++ rules) := by
  induction rules generalizing s with
  | nil => exact ⟨hsorted, by rw [List.foldl_nil, List.append_nil]⟩
  | cons rule rules ih =>
      have habsent : s.contains rule.pattern = false :=
        List.any_eq_false.mpr fun other hother =>
          (List.pairwise_append.mp hdistinct).2.2 other hother rule (by simp)
      have hinsert : s.insert rule = ⟨place rule s.rules⟩ := by simp [RuleSet.insert, habsent]
      have hperm : ((s.insert rule).rules ++ rules).Perm (s.rules ++ rule :: rules) := by
        rw [hinsert]
        exact ((place_perm rule s.rules).append_right rules).trans List.perm_middle.symm
      have hsorted' : Sorted (s.insert rule).rules := hinsert ▸ hsorted.place rule
      obtain ⟨hresult, hresult'⟩ := ih hsorted' (hdistinct.perm hperm.symm)
      exact ⟨hresult, hresult'.trans hperm⟩

/-- In a sorted rule set the rule used is one that is lighter than all others that accept the
expression, if there is one. -/
theorem resolve?_of_lightest {rule : Rule} {e : Expr} {sharing : Sharing}
    (hsorted : Sorted s.rules) (hmem : rule ∈ s.rules)
    (haccepts : (rule.resolve? e sharing).isSome)
    (hlightest : ∀ other ∈ s.rules, (other.resolve? e sharing).isSome →
      other = rule ∨ other.weight.le rule.weight = false) :
    s.resolve? e sharing = rule.resolve? e sharing := by
  cases hresolve : s.resolve? e sharing with
  | none =>
      rw [List.findSome?_eq_none_iff.mp hresolve rule hmem] at haccepts
      simp at haccepts
  | some result =>
      obtain ⟨before, first, after, hrules, hfirst, hbefore⟩ :=
        List.findSome?_eq_some_iff.mp hresolve
      rcases hlightest first (by simp [hrules]) (by simp [hfirst]) with rfl | hheavier
      · exact hfirst.symm
      · -- The lightest comes after a heavier one, unless it is that one.
        rw [hrules] at hmem hsorted
        rcases List.mem_append.mp hmem with hmem | hmem
        · simp [hbefore rule hmem] at haccepts
        · rcases List.mem_cons.mp hmem with rfl | hmem
          · exact hfirst.symm
          · have hle := (List.pairwise_cons.mp (List.pairwise_append.mp hsorted).2.1).1 rule hmem
            simp [hle] at hheavier

/-- **Which rule comes first does not depend on the order of declarations.** Whatever changes were
made, if those of the patterns declared that are the same weigh the same, then the rule for a
pattern in which captures were filled in stands before the rule for the pattern it was made from.
And rules with different patterns, declared in two orders, make the same of an expression for which
one of the rules that accept it is lighter than the others, whichever nodes are shared. -/
theorem precedence_ignores_order (changes : List Change) (p q : Expr) (n : Nat)
    (rules rules' : List Rule) (e : Expr) (sharing : Sharing) :
    (Pattern.Fills n p q → 0 < n → Uniform (p :: q :: changes.filterMap Change.declared?) →
      let stored := (runAll changes).rules
      ∀ (i j : Nat) (hi : i < stored.length) (hj : j < stored.length),
        stored[i].pattern.same p → stored[j].pattern.same q → i < j) ∧
    (Distinct rules → rules.Perm rules' →
      (∃ before rule after, rules = before ++ rule :: after ∧
        (rule.resolve? e sharing).isSome ∧
        ∀ other ∈ before ++ after, (other.resolve? e sharing).isSome →
          other.weight.le rule.weight = false) →
      (rules.foldl RuleSet.insert {}).resolve? e sharing =
        (rules'.foldl RuleSet.insert {}).resolve? e sharing) := by
  refine ⟨fun hfills hn huniform => ?stored, ?orders⟩
  case stored =>
    intro stored i j hi hj hp hq
    have hordered : Ordered (p :: q :: changes.filterMap Change.declared?) stored := by
      refine .runAll huniform fun rule hrule => List.mem_cons_of_mem p (List.mem_cons_of_mem q ?_)
      exact List.mem_filterMap.mpr ⟨_, hrule, rfl⟩
    have hpweight : stored[i].weight = Weight.ofPattern p :=
      huniform _ (hordered.mem _ (List.getElem_mem hi)) p (by simp) hp
    have hqweight : stored[j].weight = Weight.ofPattern q :=
      huniform _ (hordered.mem _ (List.getElem_mem hj)) q (by simp) hq
    refine hordered.sorted.lt_of_lighter hi hj ?_
    rw [hpweight, hqweight]
    exact (Weight.under_of_fills hfills).le_eq_false hn
  case orders =>
    rintro hdistinct hperm ⟨before, rule, after, hrules, haccepts, hlightest⟩
    -- Either way all rules are stored, and the lightest that accepts the expression is used.
    have hused {order : List Rule} (horder : rules.Perm order) :
        (order.foldl RuleSet.insert {}).resolve? e sharing = rule.resolve? e sharing := by
      obtain ⟨hsorted, hstored⟩ :=
        foldl_insert_of_distinct (s := {}) .nil (hdistinct.perm horder)
      have hmem (other : Rule) :
          other ∈ (order.foldl RuleSet.insert {}).rules ↔ other ∈ rules :=
        (hstored.trans horder.symm).mem_iff
      refine resolve?_of_lightest hsorted ((hmem rule).mpr (by simp [hrules])) haccepts ?_
      intro other hother haccepts'
      rw [hmem, hrules, List.mem_append, List.mem_cons] at hother
      obtain hother | rfl | hother := hother
      · exact .inr (hlightest other (by simp [hother]) haccepts')
      · exact .inl rfl
      · exact .inr (hlightest other (by simp [hother]) haccepts')
    rw [hused (.refl rules), hused hperm]

theorem readable_sym {name : String} (h : Undelimited name.toList) : (Expr.sym name).Readable :=
  .symbol h

theorem readable_call {name : String} {arg : Expr} (h : Undelimited name.toList)
    (harg : arg.Readable) : (Expr.call name [arg]).Readable :=
  .apply (readable_sym h) (List.forall_mem_singleton.mpr harg)

/-- A general rule and a special one, in both orders. -/
theorem precedence_ignores_order_call :
    let general : Expr := .call "f" [.call "Pattern" [.sym "x"]]
    let special : Expr := .call "f" [.sym "a"]
    let rules : List Rule := [⟨general, .sym "p"⟩, ⟨special, .sym "q"⟩]
    Pattern.Fills 1 special general ∧ Distinct rules ∧
      (∀ (i j : Nat) (hi : i < (runAll (rules.map .insert)).rules.length)
        (hj : j < (runAll (rules.map .insert)).rules.length),
        (runAll (rules.map .insert)).rules[i].pattern.same special →
        (runAll (rules.map .insert)).rules[j].pattern.same general → i < j) ∧
      (rules.foldl RuleSet.insert {}).resolve? special =
        (rules.reverse.foldl RuleSet.insert {}).resolve? special := by
  intro general special rules
  have hplain : Pattern.IsPlain (.sym "a") := trivial
  have hfills : Pattern.Fills 1 special general :=
    .apply rfl (.keep _) (.cons (.capture rfl hplain) .nil)
  have hdistinct : Distinct rules := by decide
  have huniform : Uniform
      (special :: general :: (rules.map Change.insert).filterMap Change.declared?) := by
    refine Weight.uniform_of_readable fun p hp => ?_
    have hp : p = special ∨ p = general := by
      simp only [rules, List.map_cons, List.map_nil, List.filterMap_cons, List.filterMap_nil,
        Change.declared?, List.mem_cons, List.not_mem_nil, or_false] at hp
      tauto
    obtain rfl | rfl := hp
    · exact readable_call (by decide) (readable_sym (by decide))
    · exact readable_call (by decide) (readable_call (by decide) (readable_sym (by decide)))
  obtain ⟨hstored, horders⟩ := precedence_ignores_order (rules.map .insert) special general 1
    rules rules.reverse special .never
  refine ⟨hfills, hdistinct, hstored hfills (by decide) huniform,
    horders hdistinct rules.reverse_perm.symm
      ⟨[⟨general, .sym "p"⟩], ⟨special, .sym "q"⟩, [], rfl, by decide, fun other hother _ => ?_⟩⟩
  obtain rfl := List.mem_singleton.mp hother
  decide

/-- **A rule for a symbol spelled like an application** takes the place of the rule for that
application, although it is lighter than the rule before it. The list is not sorted any more, and a
special rule declared next goes behind the general one. -/
theorem insert_unsorted :
    let general : Expr := .call "f" [.call "Pattern" [.sym "x"]]
    let special : Expr := .call "f" [.sym "b"]
    let nested : Expr := .call "f" [.call "g" [.call "h" [.sym "a"]]]
    let spelled : Expr := .call "f" [.sym "g[h[a]]"]
    let changes : List Change := [.insert ⟨general, .sym "general"⟩, .insert ⟨nested, .sym "x1"⟩,
      .insert ⟨spelled, .sym "x2"⟩, .insert ⟨special, .sym "special"⟩]
    special.Readable ∧ general.Readable ∧ Pattern.Fills 1 special general ∧
      (runAll changes).rules.map (fun rule => rule.value.render) = ["general", "x2", "special"] ∧
      ((runAll changes).resolve? special).map Expr.render = some "general" := by
  intro general special nested spelled changes
  have hplain : Pattern.IsPlain (.sym "b") := trivial
  exact ⟨readable_call (by decide) (readable_sym (by decide)),
    readable_call (by decide) (readable_call (by decide) (readable_sym (by decide))),
    .apply rfl (.keep _) (.cons (.capture rfl hplain) .nil), by decide +kernel, by decide +kernel⟩

end RuleSet

end Reduct
