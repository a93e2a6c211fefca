import Reduct.Proofs.Rule.Precedence
import Reduct.Proofs.Scope.Chains
import Reduct.Proofs.Scope.Kept

/-!
# Reading back a rule for a concrete pattern

A pattern without captures accepts itself and binds nothing, unless it holds the number that equals
nothing (`Expr.Concrete.extend?_self`). So its rule gives back the value as it was stored. The rule
goes into the version that a write finds, and this is the first one that is looked into
(`Scopes.exists_bindings_write`). There the rule is used unless one before it accepts the pattern
too.

Such a rule may be there: rules are kept by weight, weights count applications before captures, and
a capture is one application however much it accepts. A general pattern can therefore be lighter
than a deep concrete one (`Scopes.resolve?_setRule_deep`). What stands before a rule is never
heavier, as long as patterns that are the same weigh the same.
-/

namespace Reduct

open Pattern

/-! ### Concrete patterns -/

/-- There is no capture in the expression, and every number in it is one. -/
inductive Expr.Concrete : Expr → Prop
  | number {value : Float} : value.isNaN = false → Concrete (.number value)
  | string {text : String} : Concrete (.string text)
  | symbol {name : String} {held : Bool} : Concrete (.symbol name held)
  | apply {head : Expr} {args : List Expr} {held : Bool} :
      key? (.apply head args held) = none → Concrete head → (∀ a ∈ args, Concrete a) →
        Concrete (.apply head args held)

/-- A number that is one equals itself. -/
theorem beq_self_of_isNaN_eq_false {x : Float} (h : x.isNaN = false) : x == x := by
  rw [Float.isNaN_eq_decide_eq_nan, decide_eq_false_iff_not] at h
  exact Float.beq_self_iff.mpr h

namespace Expr.Concrete

mutual

/-- **A concrete pattern accepts itself** and binds nothing. -/
theorem extend?_self : ∀ {p : Expr}, p.Concrete → ∀ captures : Captures,
    extend? p p captures = some captures
  | .apply head args held, h, captures => by
      cases h with
      | apply hkey hhead hargs =>
          simp only [extend?, hkey, extend?_self hhead captures]
          exact extendAll?_self hargs captures
  | .number value, h, captures => by
      cases h with
      | number hvalue => simp [extend?, acceptsAtom, beq_self_of_isNaN_eq_false hvalue]
  | .string _, _, captures | .symbol .., _, captures => by simp [extend?, acceptsAtom]

theorem extendAll?_self : ∀ {ps : List Expr}, (∀ p ∈ ps, p.Concrete) → ∀ captures : Captures,
    extendAll? ps ps captures = some captures
  | [], _, _ => rfl
  | p :: ps, h, captures => by
      rw [extendAll?, extend?_self (h p (by simp)) captures]
      exact extendAll?_self (fun p hp => h p (by simp [hp])) captures

end

end Expr.Concrete

/-- The number is neither of the two zeros. -/
abbrev IsNonzero (x : Float) : Prop := (x == 0) = false

/-- Numbers other than the zeros are equal only if they have the same bits. -/
theorem eq_of_beq_of_isNonzero {x y : Float} (h : x == y) (hy : IsNonzero y) : x = y := by
  obtain ⟨-, -, heq | ⟨-, rfl⟩ | ⟨-, rfl⟩⟩ := Float.beq_iff_ne_nan_and_eq.mp h
  · exact heq
  · exact absurd hy (by decide)
  · exact absurd hy (by decide)

section Uncaptured

open Weight

mutual

/-- **A pattern without captures accepts what it reads like,** the sign of a zero aside. -/
theorem same_of_extend? : ∀ {q p : Expr} {captures : Captures}, (ofPattern q).captures = 0 →
    p.Atoms IsNonzero (fun _ => True) → (extend? q p captures).isSome → q.same p
  | .apply f as held, p, captures, hq, hp, h => by
      cases hkey : key? (.apply f as held) with
      | some key => simp [ofPattern_of_key? hkey] at hq
      | none =>
          cases p with
          | apply g bs held' =>
              rw [ofPattern, hkey] at hq
              simp only [add] at hq
              simp only [extend?, hkey] at h
              cases hmiddle : extend? f g captures with
              | none => simp [hmiddle] at h
              | some middle =>
                  rw [hmiddle] at h
                  have hhead : f.same g := @same_of_extend? f g captures (by omega)
                    hp.head_of_apply (by rw [hmiddle]; rfl)
                  have hargs : Expr.sameAll as bs := @sameAll_of_extendAll? as bs middle (by omega)
                    (fun _ => hp.of_mem_args) h
                  rw [Expr.same, hhead, hargs]
                  rfl
          | number _ | string _ | symbol _ _ => simp [extend?, hkey] at h
  | .number x, p, captures, _, hp, h => by
      cases p with
      | number y =>
          have hxy : x == y := by
            by_contra hxy
            simp [extend?, acceptsAtom, hxy] at h
          cases hp with
          | number hy => rw [eq_of_beq_of_isNonzero hxy hy, Expr.same]; exact BEq.rfl
      | string _ | symbol _ _ | apply _ _ _ => simp [extend?, acceptsAtom] at h
  | .string text, p, captures, _, _, h => by
      cases p with
      | string text' =>
          by_contra hne
          rw [Expr.same] at hne
          simp [extend?, acceptsAtom, hne] at h
      | number _ | symbol _ _ | apply _ _ _ => simp [extend?, acceptsAtom] at h
  | .symbol name held, p, captures, _, _, h => by
      cases p with
      | symbol name' held' =>
          by_contra hne
          rw [Expr.same] at hne
          simp [extend?, acceptsAtom, hne] at h
      | number _ | string _ | apply _ _ _ => simp [extend?, acceptsAtom] at h

theorem sameAll_of_extendAll? : ∀ {qs ps : List Expr} {captures : Captures},
    (ofPatterns qs).captures = 0 → (∀ p ∈ ps, p.Atoms IsNonzero fun _ => True) →
      (extendAll? qs ps captures).isSome → Expr.sameAll qs ps
  | [], [], _, _, _, _ => rfl
  | q :: qs, p :: ps, captures, hqs, hps, h => by
      simp only [ofPatterns, add] at hqs
      rw [extendAll?] at h
      cases hmiddle : extend? q p captures with
      | none => simp [hmiddle] at h
      | some middle =>
          rw [hmiddle] at h
          have hfirst : q.same p := @same_of_extend? q p captures (by omega) (hps p (by simp))
            (by rw [hmiddle]; rfl)
          have hothers : Expr.sameAll qs ps := @sameAll_of_extendAll? qs ps middle (by omega)
            (fun p hp => hps p (by simp [hp])) h
          rw [Expr.sameAll, hfirst, hothers]
          rfl
  | [], _ :: _, _, _, _, h | _ :: _, [], _, _, _, h => by simp [extendAll?] at h

end

end Uncaptured

namespace Captures

mutual

/-- Without bindings a template has nothing put in. -/
theorem instantiate?_nil : ∀ (template : Expr) (s : Sharing), instantiate? [] template s = none
  | .apply head args held, s => by
      rw [instantiate?, instantiate?_nil head, instantiateAll?_nil args]
      rfl
  | .number _, _ | .string _, _ | .symbol .., _ => rfl

theorem instantiateAll?_nil : ∀ (templates : List Expr) (s : Sharing),
    instantiateAll? [] templates s = none
  | [], _ => rfl
  | e :: es, s => by
      rw [instantiateAll?, instantiate?_nil e, instantiateAll?_nil es]
      rfl

end

end Captures

/-- The rule for a concrete pattern turns it into the value as it was declared. -/
theorem Rule.resolve?_pattern {rule : Rule} (h : rule.pattern.Concrete) (s : Sharing) :
    rule.resolve? rule.pattern s = some rule.value := by
  rw [resolve?, match?, h.extend?_self, Option.map_some, Captures.instantiate,
    Captures.instantiate?_nil]
  rfl

/-- A rule for another pattern accepts a concrete one only by a capture, the sign of a zero
aside. -/
theorem Rule.captures_pos_of_resolve? {rule : Rule} {p : Expr} {s : Sharing}
    (hp : p.Atoms IsNonzero fun _ => True) (hne : rule.pattern.same p = false)
    (h : (rule.resolve? p s).isSome) : 0 < rule.weight.captures := by
  rw [resolve?, Option.isSome_map, match?] at h
  by_contra hzero
  simp [same_of_extend? (Nat.eq_zero_of_not_pos hzero) hp h] at hne

/-! ### Where a rule is -/

namespace RuleSet

variable {new : Rule} {rules : List Rule}

theorem exists_exchange_eq (h : rules.any fun rule => rule.pattern.same new.pattern) :
    ∃ before later, exchange new rules = before ++ new :: later ∧
      ∀ rule ∈ before, rule.pattern.same new.pattern = false := by
  induction rules with
  | nil => simp at h
  | cons rule rules ih =>
      rw [exchange]
      split
      next => exact ⟨[], rules, rfl, by simp⟩
      next hsame =>
        obtain ⟨before, later, heq, hbefore⟩ := ih (by simpa [hsame] using h)
        refine ⟨rule :: before, later, by rw [heq, List.cons_append], ?_⟩
        exact List.forall_mem_cons.mpr ⟨by simpa using hsame, hbefore⟩

/-- After a declaration the rule is there, and no rule before it has an equal pattern. -/
theorem exists_insert_eq (s : RuleSet) (new : Rule) :
    ∃ before later, (s.insert new).rules = before ++ new :: later ∧
      ∀ rule ∈ before, rule.pattern.same new.pattern = false := by
  rw [insert]
  cases hcontains : s.contains new.pattern with
  | true => exact exists_exchange_eq hcontains
  | false =>
      refine ⟨_, _, rfl, fun rule hrule => ?_⟩
      simpa using List.any_eq_false.mp hcontains rule (List.mem_of_mem_take hrule)

end RuleSet

namespace Scopes

variable {name other : String} {frames : List Scope}

theorem newVersion_rules (name : String) (around : List Scope) :
    (newVersion name around).rules = {} := by
  rw [newVersion]
  split
  · rfl
  · split <;> rfl

/-- After a write the visible version is the one that was written, and the older ones are as before.
The version that was found is in front of them, or a new one, which has no rules. -/
theorem exists_bindings_write (name : String) (change : Version → Version) (h : frames ≠ []) :
    ∃ older, bindings name (write name change frames) = change (found name frames) :: older ∧
      (bindings name frames = found name frames :: older ∨
        bindings name frames = older ∧ (found name frames).rules = {}) := by
  obtain ⟨above, scope, around, hframes, habove, hfound, hwrite⟩ := exists_write_eq name change h
  have hold : bindings name frames = bindings name (scope :: around) := by
    rw [hframes, bindings_append, bindings_eq_nil habove, List.nil_append]
  refine ⟨bindings name around, ?_, ?_⟩
  · rw [hwrite, bindings_append, bindings_eq_nil habove, List.nil_append]
    exact bindings_of_bound (Table.get?_put_self ..)
  · rw [hold]
    obtain hget | ⟨hget, hnew⟩ := hfound
    · exact .inl (bindings_of_bound hget)
    · exact .inr ⟨bindings_of_unbound hget, by rw [hnew, newVersion_rules]⟩

theorem bindings_write_of_ne (hne : other ≠ name) (change : Version → Version)
    (frames : List Scope) : bindings other (write name change frames) = bindings other frames := by
  cases frames with
  | nil => rfl
  | cons first rest =>
      obtain ⟨above, scope, around, hframes, -, -, hwrite⟩ :=
        exists_write_eq name change (List.cons_ne_nil first rest)
      rw [hwrite, hframes, bindings_append, bindings_append]
      congr 1
      simp only [bindings, List.filterMap_cons, Table.get?_put_of_ne _ hne]

/-! ### Rules in every version -/

/-- The scopes after some operations. -/
def after (actions : List Action) : Scopes := actions.foldl (fun s a => a.run s) {}

theorem after_concat (actions : List Action) (a : Action) :
    after (actions ++ [a]) = a.run (after actions) := by
  rw [after, List.foldl_append]
  rfl

theorem reachable_iff_after {s : Scopes} : Reachable s ↔ ∃ actions, s = after actions := by
  constructor
  · intro h
    induction h with
    | root => exact ⟨[], rfl⟩
    | @step s a _ ih =>
        obtain ⟨actions, rfl⟩ := ih
        exact ⟨actions ++ [a], by simp [after]⟩
  · rintro ⟨actions, rfl⟩
    induction actions using List.reverseRecOn with
    | nil => exact .root
    | append_singleton actions a ih =>
        rw [after_concat]
        exact .step a ih

/-- The pattern that a rule is declared for. -/
def Action.declared? : Action → Option Expr
  | .write (.setRule rule) => some rule.pattern
  | _ => none

theorem All.of_mem_bindings {R : String → Version → Prop} {frames : List Scope}
    {version : Version} (h : All R frames) (hversion : version ∈ bindings name frames) :
    R name version := by
  obtain ⟨scope, hscope, hget⟩ := List.mem_filterMap.mp hversion
  exact (h scope hscope).of_get? hget

/-- The rules of every version are sorted, and their patterns are among the given ones. -/
abbrev Ordered (patterns : List Expr) : List Scope → Prop :=
  All fun _ version => RuleSet.Ordered patterns version.rules.rules

theorem ordered_newVersion (patterns : List Expr) (name : String) (around : List Scope) :
    RuleSet.Ordered patterns (newVersion name around).rules.rules := by
  rw [newVersion_rules]
  exact .nil patterns

/-- A write changes rules as the rule sets do. -/
theorem Write.ordered_change {patterns : List Expr} {w : Write} {version : Version}
    (huniform : Weight.Uniform patterns)
    (hw : ∀ pattern, (Action.write w).declared? = some pattern → pattern ∈ patterns)
    (h : RuleSet.Ordered patterns version.rules.rules) :
    RuleSet.Ordered patterns (w.change version).rules.rules := by
  cases w with
  | setRule rule => exact h.insert huniform (hw rule.pattern rfl)
  | clearRule pattern => exact h.remove pattern
  | setAttributes name attributes | clearAttributes name keys => exact h

/-- **All rules are kept sorted,** as long as patterns that are the same weigh the same. -/
theorem ordered_after {patterns : List Expr} {actions : List Action}
    (huniform : Weight.Uniform patterns)
    (h : ∀ a ∈ actions, ∀ pattern, a.declared? = some pattern → pattern ∈ patterns) :
    Ordered patterns (after actions).frames := by
  induction actions using List.reverseRecOn with
  | nil => exact List.forall_mem_singleton.mpr .empty
  | append_singleton actions a ih =>
      have hbefore := ih fun a ha => h a (by simp [ha])
      have ha := h a (by simp)
      rw [after_concat]
      cases a with
      | push locals => exact hbefore.push fun name _ => ordered_newVersion patterns name _
      | pop => exact All.pop hbefore
      | write w =>
          cases howner : w.owner? with
          | none =>
              rw [Action.run, Write.run_of_no_owner howner]
              exact hbefore
          | some name =>
              rw [Action.run, Write.run_of_owner howner]
              exact All.write (fun around _ => ordered_newVersion patterns name around)
                (fun version => Write.ordered_change huniform ha) hbefore

/-! ### Reading back -/

/-- To declare a rule for a pattern that has an owner is one more operation. -/
theorem setRule?_after (actions : List Action) {rule : Rule} {name : String}
    (howner : rule.pattern.owner? = some name) :
    (after actions).setRule? rule = some (after (actions ++ [.write (.setRule rule)])) := by
  have hw : (Write.setRule rule).owner? = some name := howner
  rw [after_concat, Action.run, Write.run_of_owner hw, setRule?, howner]
  rfl

/-- The version that was written to is the newest in the chain. -/
theorem chain_after_write (actions : List Action) {w : Write} (howner : w.owner? = some name) :
    ∃ others, (after (actions ++ [.write w])).chain name =
      w.change (found name (after actions).frames) :: others := by
  have hne := (reachable_iff_after.mpr ⟨actions, rfl⟩).frames_ne_nil
  have hlinked := (reachable_iff_after.mpr ⟨actions ++ [.write w], rfl⟩).linked
  rw [chain_eq hlinked, after_concat, Action.run, Write.run_of_owner howner]
  obtain ⟨others, hbindings, -⟩ := exists_bindings_write name w.change hne
  exact ⟨others, hbindings⟩

/-- The versions of the chain have sorted rules. -/
theorem ordered_of_chain_eq {patterns : List Expr} {actions : List Action}
    (huniform : Weight.Uniform patterns)
    (h : ∀ a ∈ actions, ∀ pattern, a.declared? = some pattern → pattern ∈ patterns)
    {version : Version} {others : List Version}
    (hchain : (after actions).chain name = version :: others) :
    RuleSet.Ordered patterns version.rules.rules := by
  have hlinked := (reachable_iff_after.mpr ⟨actions, rfl⟩).linked
  have hversion : version ∈ bindings name (after actions).frames := by
    rw [← chain_eq hlinked, hchain]
    exact List.mem_cons_self
  exact (ordered_after huniform h).of_mem_bindings hversion

/-- **A rule for a concrete pattern is read back,** unless a rule that stands before it in its
version accepts the pattern: then what this rule makes of the pattern is read. The rules that stand
before it have other patterns. Those that accept the pattern do so by captures, unless a zero is in
it; and none is heavier, if the patterns declared so far that are the same weigh the same. Which nodes
are shared makes no difference. -/
theorem resolve?_setRule (actions : List Action) {p : Expr} (v : Expr) {name : String}
    (howner : p.owner? = some name) (hp : p.Concrete) :
    ∃ s' version others before later,
      (after actions).setRule? ⟨p, v⟩ = some s' ∧
      s'.chain name = version :: others ∧
      version.rules.rules = before ++ ⟨p, v⟩ :: later ∧
      (∀ rule ∈ before, rule.pattern.same p = false) ∧
      (∀ s, s'.resolve? p s = some ((before.findSome? fun rule => rule.resolve? p s).getD v)) ∧
      (p.Atoms IsNonzero (fun _ => True) →
        ∀ rule ∈ before, ∀ s, (rule.resolve? p s).isSome → 0 < rule.weight.captures) ∧
      (Weight.Uniform (p :: actions.filterMap Action.declared?) →
        ∀ rule ∈ before, rule.weight.le (.ofPattern p)) := by
  let w : Write := .setRule ⟨p, v⟩
  have hw : w.owner? = some name := howner
  obtain ⟨others, hchain⟩ := chain_after_write actions hw
  obtain ⟨before, later, hrules, hbefore⟩ :=
    (found name (after actions).frames).rules.exists_insert_eq ⟨p, v⟩
  have hrules' : (w.change (found name (after actions).frames)).rules.rules =
      before ++ ⟨p, v⟩ :: later := hrules
  refine ⟨_, _, others, before, later, setRule?_after actions howner, hchain, hrules', hbefore,
    ?resolve, fun hnonzero rule hrule _ =>
      Rule.captures_pos_of_resolve? hnonzero (hbefore rule hrule), ?weights⟩
  case resolve =>
    intro s
    have hself : Rule.resolve? ⟨p, v⟩ p s = some v := Rule.resolve?_pattern hp s
    rw [resolve?, howner]
    dsimp only
    rw [hchain, List.findSome?_cons, RuleSet.resolve?, hrules', List.findSome?_append,
      List.findSome?_cons, hself]
    cases before.findSome? fun rule => rule.resolve? p s <;> rfl
  case weights =>
    intro huniform rule hrule
    have hpatterns : ∀ a ∈ actions ++ [.write w], ∀ pattern, a.declared? = some pattern →
        pattern ∈ p :: actions.filterMap Action.declared? := by
      intro a ha pattern hpattern
      rcases List.mem_append.mp ha with ha | ha
      · exact List.mem_cons_of_mem p (List.mem_filterMap.mpr ⟨a, ha, hpattern⟩)
      · obtain rfl := List.mem_singleton.mp ha
        obtain rfl := Option.some.inj hpattern
        exact List.mem_cons_self
    have hsorted := (ordered_of_chain_eq huniform hpatterns hchain).sorted
    rw [hrules'] at hsorted
    exact (List.pairwise_append.mp hsorted).2.2 rule hrule ⟨p, v⟩ (by simp)

/-- A rule is declared again in a scope of its own, where a general rule is too. -/
theorem resolve?_setRule_call :
    let general : Expr := .call "f" [.call "Pattern" [.sym "x"]]
    let p : Expr := .call "f" [.sym "a"]
    let actions : List Action := [.write (.setRule ⟨p, .sym "old"⟩), .push [],
      .write (.setRule ⟨general, .sym "general"⟩)]
    p.owner? = some "f" ∧ p.Concrete ∧
      ∃ s' version others before later,
        (after actions).setRule? ⟨p, .sym "new"⟩ = some s' ∧
        s'.chain "f" = version :: others ∧
        version.rules.rules = before ++ ⟨p, .sym "new"⟩ :: later ∧
        s'.resolve? p = some ((before.findSome? fun rule => rule.resolve? p).getD (.sym "new")) ∧
        (s'.resolve? p).map Expr.render = some "new" := by
  intro general p actions
  have hp : p.Concrete := .apply rfl .symbol (List.forall_mem_singleton.mpr .symbol)
  obtain ⟨s', version, others, before, later, hset, hchain, hrules, -, hresolve, -, -⟩ :=
    resolve?_setRule actions (.sym "new") rfl hp
  have hvalue : (((after actions).setRule? ⟨p, .sym "new"⟩).bind (·.resolve? p)).map Expr.render =
      some "new" := by decide +kernel
  rw [hset, Option.bind_some] at hvalue
  exact ⟨rfl, hp, s', version, others, before, later, hset, hchain, hrules, hresolve .never,
    hvalue⟩

/-- **A general rule may come first.** A capture is one application, and so lighter than the two in
the argument of the concrete pattern. -/
theorem resolve?_setRule_deep :
    let general : Expr := .call "f" [.call "Pattern" [.sym "x"]]
    let p : Expr := .call "f" [.call "g" [.call "g" [.sym "a"]]]
    let s : Scopes := after [.write (.setRule ⟨general, .sym "general"⟩)]
    p.owner? = some "f" ∧ p.Concrete ∧
      ((s.setRule? ⟨p, .sym "special"⟩).bind (·.resolve? p)).map Expr.render =
        some "general" := by
  intro general p s
  refine ⟨rfl, ?_, by decide +kernel⟩
  refine .apply rfl .symbol (List.forall_mem_singleton.mpr ?_)
  refine .apply rfl .symbol (List.forall_mem_singleton.mpr ?_)
  exact .apply rfl .symbol (List.forall_mem_singleton.mpr .symbol)

end Scopes

end Reduct
