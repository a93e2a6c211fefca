import Reduct.Proofs.Expr.Sharing
import Reduct.Proofs.Pattern.Keys
import Reduct.Proofs.Rule.Marks

/-!
# Rewriting, whichever nodes are shared

A binding that is put into a template can be the very node it is put in the place of, and so can the
instance of a rule. What can then come of putting bindings in and of replacing is what can come of
the passes that do it (`Captures.Substitutes`, `Expr.ReplacesTo`, `Expr.ReplacesAllTo`). Whatever
the passes are told of shared nodes, their results are among these, and all of them are alike
(`Captures.Substitutes.alike`, `Expr.ReplacesTo.alike`, `Expr.ReplacesAllTo.alike`).

Matching binds parts of an expression. So a hereditary property of the values that rules have goes
from an expression to all that can come of it. And since nothing that is decided on the way depends
on hold marks, what can come of arguments that differ at most in marks differs at most in marks
(`rewriting_ignores_marks`).
-/

namespace Reduct

open Reduct.Expr

/-! ### What can come of it -/

/-- The expression can come of the template when the bindings are put in. -/
def Captures.Substitutes (captures : Captures) (template e : Expr) : Prop :=
  ∃ change, TopDown (fun key bound => captures.binding? key = some bound) template change ∧
    change.getD template = e

/-- The expression can come of `e` when the first rule that accepts it is used. -/
inductive Replace.Puts : List Rule → Expr → Expr → Prop
  | first {rule : Rule} {rules : List Rule} {e v : Expr} {captures : Captures} :
      Pattern.match? rule.pattern e = some captures → captures.Substitutes rule.value v →
      Puts (rule :: rules) e v
  | later {rule : Rule} {rules : List Rule} {e v : Expr} :
      Pattern.match? rule.pattern e = none → Puts rules e v → Puts (rule :: rules) e v

/-- The expression `d` can come of `e` when the rules replace from the top. -/
def Expr.ReplacesTo (rules : List Rule) (e d : Expr) : Prop :=
  ∃ change, TopDown (Replace.Puts rules) e change ∧ change.getD e = d

/-- The expression `d` can come of `e` when the rules replace from the bottom. -/
def Expr.ReplacesAllTo (rules : List Rule) (e d : Expr) : Prop :=
  ∃ change, BottomUp (Replace.Puts rules) e change ∧ change.getD e = d

/-! ### What it consists of -/

section Hereditary

variable {P : Expr → Prop} {p e d : Expr} {captures : Captures} {rules : List Rule}

mutual

/-- What a capture faces is a part of the expression. -/
theorem Pattern.hereditary_faced (hP : Hereditary P) : ∀ {p e : Expr}, P e →
    ∀ c ∈ faced p e, P c.2
  | .apply f as held, e, he => by
      cases hkey : key? (.apply f as held) with
      | some key =>
          simp only [faced, hkey]
          exact List.forall_mem_singleton.mpr he
      | none =>
          cases e with
          | apply g bs held' =>
              simp only [faced, hkey]
              exact List.forall_mem_append.mpr
                ⟨hereditary_faced hP (hP.head he), hereditary_facedAll hP fun _ => hP.arg he⟩
          | _ => simp [faced, hkey]
  | .number _, _, _ | .string _, _, _ | .symbol .., _, _ => by simp [faced]

theorem Pattern.hereditary_facedAll (hP : Hereditary P) : ∀ {ps es : List Expr},
    (∀ e ∈ es, P e) → ∀ c ∈ facedAll ps es, P c.2
  | p :: ps, e :: es, hes => List.forall_mem_append.mpr
      ⟨hereditary_faced hP (hes e (by simp)),
        hereditary_facedAll hP fun e he => hes e (by simp [he])⟩
  | [], _, _ | _ :: _, [], _ => by simp [facedAll]

end

variable (hP : Hereditary P)
include hP

/-- **Matching binds parts of the expression.** -/
theorem Pattern.hereditary_match? (he : P e) (h : match? p e = some captures) :
    ∀ c ∈ captures, P c.2 := by
  obtain ⟨-, hbind⟩ := extend?_eq_some_iff.mp h
  obtain ⟨-, hmem, -⟩ := Captures.bindAll?_spec hbind
  exact fun c hc => hereditary_faced hP he c ((hmem c hc).resolve_left List.not_mem_nil)

/-- So does matching expressions against as many patterns. -/
theorem Pattern.hereditary_matchAll? {ps es : List Expr} (hes : ∀ e ∈ es, P e)
    (h : extendAll? ps es [] = some captures) : ∀ c ∈ captures, P c.2 := by
  obtain ⟨-, hbind⟩ := extendAll?_eq_some_iff.mp h
  obtain ⟨-, hmem, -⟩ := Captures.bindAll?_spec hbind
  exact fun c hc => hereditary_facedAll hP hes c ((hmem c hc).resolve_left List.not_mem_nil)

theorem Captures.Substitutes.hereditary (h : captures.Substitutes e d) (he : P e)
    (hcaptures : ∀ c ∈ captures, P c.2) : P d := by
  obtain ⟨change, hpass, rfl⟩ := h
  refine hpass.hereditary hP (fun key bound _ hbound => ?_) he
  obtain ⟨c, hc, -, rfl⟩ := exists_of_binding? hbound
  exact hcaptures c hc

theorem Replace.Puts.hereditary (h : Puts rules e d) (he : P e)
    (hrules : ∀ rule ∈ rules, P rule.value) : P d := by
  induction h with
  | first hmatch hvalue =>
      exact hvalue.hereditary hP (hrules _ List.mem_cons_self)
        (Pattern.hereditary_match? hP he hmatch)
  | later _ _ ih => exact ih he fun rule hrule => hrules rule (List.mem_cons_of_mem _ hrule)

theorem Expr.ReplacesTo.hereditary (h : e.ReplacesTo rules d) (he : P e)
    (hrules : ∀ rule ∈ rules, P rule.value) : P d := by
  obtain ⟨change, hpass, rfl⟩ := h
  exact hpass.hereditary hP (fun _ _ he hputs => hputs.hereditary hP he hrules) he

theorem Expr.ReplacesAllTo.hereditary (h : e.ReplacesAllTo rules d) (he : P e)
    (hrules : ∀ rule ∈ rules, P rule.value) : P d := by
  obtain ⟨change, hpass, rfl⟩ := h
  exact hpass.hereditary hP (fun _ _ he hputs => hputs.hereditary hP he hrules) he

end Hereditary

/-! ### What they are told -/

theorem findSome?_congr {α β : Type} {f g : α → Option β} {xs : List α}
    (h : ∀ x ∈ xs, f x = g x) : xs.findSome? f = xs.findSome? g := by
  induction xs with
  | nil => rfl
  | cons x xs ih =>
      rw [List.forall_mem_cons] at h
      rw [List.findSome?_cons, List.findSome?_cons, h.1, ih h.2]

/-- A rule makes the same of an expression if bindings that are put into its value do. -/
theorem Rule.resolve?_congr {rule : Rule} {s s' : Sharing}
    (h : ∀ captures : Captures, captures.instantiate rule.value s =
      captures.instantiate rule.value s') (e : Expr) : rule.resolve? e s = rule.resolve? e s' :=
  congrArg (Option.map · _) (funext h)

/-! ### What the passes come to -/

namespace Captures

variable {captures : Captures} {template e : Expr}

theorem picks_binding? (captures : Captures) :
    Picks (fun _ => captures.binding?) fun key bound => captures.binding? key = some bound :=
  ⟨fun h => h, fun _ h => ⟨_, h, rfl⟩⟩

theorem substitutes_instantiate (captures : Captures) (template : Expr) (s : Sharing) :
    captures.Substitutes template (captures.instantiate template s) :=
  ⟨_, captures.isPass_instantiate?.topDown captures.picks_binding? template s, rfl⟩

theorem Substitutes.alike_instantiate (h : captures.Substitutes template e) (s : Sharing) :
    e.Alike (captures.instantiate template s) := by
  obtain ⟨change, hpass, rfl⟩ := h
  exact captures.isPass_instantiate?.alike captures.picks_binding? s hpass

/-- All that can come of alike bindings and templates is alike. -/
theorem Substitutes.alike {captures' : Captures} {template' e' : Expr}
    (h : captures.Substitutes template e) (h' : captures'.Substitutes template' e')
    (hcaptures : captures.Alike captures') (htemplate : template.Alike template') :
    e.Alike e' := by
  refine (h.alike_instantiate .never).trans (.trans ?_ (h'.alike_instantiate .never).symm)
  rw [← instantiate_releaseHold _ _ .never .never, ← instantiate_releaseHold _ _ .never .never,
    alike_iff.mp hcaptures, alike_def.mp htemplate]

/-- If the symbol in a held template is bound to the very node that it is, the template comes back
as it is. If it is bound to a node that looks the same, the template is built anew. -/
example :
    let template : Expr := (call "f" [sym "x"]).holdForm
    let captures : Captures := [(sym "x", .symbol "x" true)]
    captures.instantiate? template .ofAtoms = none ∧
      captures.instantiate template = .app (.symbol "f" true) [.symbol "x" true] := by
  intro template captures
  constructor <;> cbv

end Captures

namespace Replace

variable {rules rules' : List Rule} {a b e v : Expr} {s : Sharing}

theorem puts_of_instance? (h : instance? rules e s = some v) : Puts rules e v := by
  induction rules with
  | nil => simp [instance?] at h
  | cons rule rules ih =>
      rw [instance?, List.findSome?_cons] at h
      split at h
      next result hresult =>
        obtain rfl := Option.some.inj h
        obtain ⟨captures, hmatch, rfl⟩ := Option.map_eq_some_iff.mp hresult
        exact .first hmatch (captures.substitutes_instantiate rule.value s.made)
      next hresult => exact .later (Option.map_eq_none_iff.mp hresult) (ih h)

theorem Puts.exists_instance? (h : Puts rules e v) (s : Sharing) :
    ∃ v', instance? rules e s = some v' ∧ v.Alike v' := by
  induction h with
  | @first rule rules e v captures hmatch hvalue =>
      refine ⟨captures.instantiate rule.value s.made, ?_, hvalue.alike_instantiate s.made⟩
      rw [instance?, List.findSome?_cons, Rule.resolve?, hmatch, Option.map_some]
  | @later rule rules e v hmatch _ ih =>
      obtain ⟨v', hinstance, halike⟩ := ih
      refine ⟨v', ?_, halike⟩
      rw [instance?, List.findSome?_cons, Rule.resolve?, hmatch, Option.map_none]
      exact hinstance

theorem picks_instance? (rules : List Rule) :
    Picks (fun s e => instance? rules e s) (Puts rules) :=
  ⟨puts_of_instance?, fun s h => h.exists_instance? s⟩

/-- What alike rules make of alike nodes, if anything, is alike. -/
theorem alike_getD_instance? (h : a.Alike b) (s s' : Sharing) :
    ((instance? rules a s).getD a).Alike ((instance? rules b s').getD b) := by
  rw [alike_def, ← getD_releaseHold, ← getD_releaseHold, ← instance?_releaseHold _ _ s .never,
    ← instance?_releaseHold _ _ s' .never, alike_def.mp h]

/-- A pass from the bottom leaves at a node what the first rule that accepts it makes of it. -/
theorem visit_visit? (rules : List Rule) (e : Expr) (node? : Option Expr) (s : Sharing) :
    Visit (Puts rules) e node? (visit? rules e node? s) := by
  have hinstance := instance?_eq rules (node?.getD e) s
  rw [visit?]
  cases houtcome : outcome? rules (node?.getD e) s with
  | none =>
      rw [houtcome] at hinstance
      exact .left ((picks_instance? rules).not_puts hinstance)
  | some outcome =>
      rw [houtcome] at hinstance
      have hputs := puts_of_instance? hinstance
      cases outcome with
      | became v => exact .replaced hputs
      | kept =>
          cases node? with
          | none => exact .same hputs
          | some node => exact .replaced hputs

mutual

theorem bottomUp_replaceAll? : ∀ (e : Expr) (s : Sharing),
    BottomUp (Puts rules) e (replaceAll? rules e s)
  | .apply head args held, s => by
      rw [replaceAll?]
      exact .apply (bottomUp_replaceAll? head s.first) (bottomUpAll_replaceAllIn? args s.rest)
        (visit_visit? rules _ _ s)
  | .number value, s => .atom rfl (visit_visit? rules (.number value) none s)
  | .string text, s => .atom rfl (visit_visit? rules (.string text) none s)
  | .symbol name held, s => .atom rfl (visit_visit? rules (.symbol name held) none s)

theorem bottomUpAll_replaceAllIn? : ∀ (es : List Expr) (s : Sharing),
    BottomUpAll (Puts rules) es (replaceAllIn? rules es s)
  | [], _ => .nil
  | e :: es, s => .cons (bottomUp_replaceAll? e s.first) (bottomUpAll_replaceAllIn? es s.rest)

end

theorem alike_of_visit {node? e' : Option Expr} (h : Visit (Puts rules) e node? e')
    (s : Sharing) :
    (e'.getD e).Alike ((instance? rules (node?.getD e) s).getD (node?.getD e)) := by
  cases h with
  | replaced hv | same hv =>
      obtain ⟨v', hinstance, halike⟩ := hv.exists_instance? s
      rw [hinstance]
      exact halike
  | left hnot =>
      rw [(picks_instance? rules).eq_none (s := s) hnot]
      rfl

mutual

/-- Two results of a pass from the bottom are alike. -/
theorem alike_bottomUp : ∀ {e : Expr} {a b : Option Expr}, BottomUp (Puts rules) e a →
    BottomUp (Puts rules) e b → (a.getD e).Alike (b.getD e)
  | _, _, _, .atom _ hvisit, .atom _ hvisit' =>
      (alike_of_visit hvisit .never).trans (alike_of_visit hvisit' .never).symm
  | _, _, _, .apply hhead hargs hvisit, .apply hhead' hargs' hvisit' => by
      refine (alike_of_visit hvisit .never).trans (.trans (alike_getD_instance? ?_ _ _)
        (alike_of_visit hvisit' .never).symm)
      rw [getD_rebuilt?, getD_rebuilt?]
      exact .apply (alike_bottomUp hhead hhead') (alike_bottomUpAll hargs hargs')

theorem alike_bottomUpAll : ∀ {es : List Expr} {as bs : Option (List Expr)},
    BottomUpAll (Puts rules) es as → BottomUpAll (Puts rules) es bs →
      releaseHolds (as.getD es) = releaseHolds (bs.getD es)
  | _, _, _, .nil, .nil => rfl
  | _, _, _, .cons he hes, .cons he' hes' => by
      have hfirst := alike_bottomUp he he'
      rw [getD_rebuiltArgs?, getD_rebuiltArgs?, releaseHolds, releaseHolds, hfirst,
        alike_bottomUpAll hes hes']

end

end Replace

namespace Expr

variable {rules rules' : List Rule} {e e' d d' : Expr}

theorem replacesTo_replace (rules : List Rule) (e : Expr) (s : Sharing) :
    e.ReplacesTo rules (e.replace rules s) :=
  ⟨_, (Replace.isPass_replace? rules).topDown (Replace.picks_instance? rules) e s, rfl⟩

theorem ReplacesTo.alike_replace (h : e.ReplacesTo rules d) (s : Sharing) :
    d.Alike (e.replace rules s) := by
  obtain ⟨change, hpass, rfl⟩ := h
  exact (Replace.isPass_replace? rules).alike (Replace.picks_instance? rules) s hpass

theorem replacesAllTo_replaceAll (rules : List Rule) (e : Expr) (s : Sharing) :
    e.ReplacesAllTo rules (e.replaceAll rules s) :=
  ⟨_, Replace.bottomUp_replaceAll? e s, rfl⟩

theorem ReplacesAllTo.alike_replaceAll (h : e.ReplacesAllTo rules d) (s : Sharing) :
    d.Alike (e.replaceAll rules s) := by
  obtain ⟨change, hpass, rfl⟩ := h
  exact Replace.alike_bottomUp hpass (Replace.bottomUp_replaceAll? e s)

/-- All that can come of alike expressions, when alike rules replace in them, is alike. -/
theorem ReplacesTo.alike (h : e.ReplacesTo rules d) (h' : e'.ReplacesTo rules' d')
    (hrules : List.Forall₂ Rule.Alike rules rules') (he : e.Alike e') : d.Alike d' := by
  refine (h.alike_replace .never).trans (.trans ?_ (h'.alike_replace .never).symm)
  rw [← replace_releaseHold _ _ .never .never, ← replace_releaseHold _ _ .never .never,
    Rule.forall₂_alike_iff.mp hrules, alike_def.mp he]

theorem ReplacesAllTo.alike (h : e.ReplacesAllTo rules d) (h' : e'.ReplacesAllTo rules' d')
    (hrules : List.Forall₂ Rule.Alike rules rules') (he : e.Alike e') : d.Alike d' := by
  refine (h.alike_replaceAll .never).trans (.trans ?_ (h'.alike_replaceAll .never).symm)
  rw [← replaceAll_releaseHold _ _ .never .never, ← replaceAll_releaseHold _ _ .never .never,
    Rule.forall₂_alike_iff.mp hrules, alike_def.mp he]

end Expr

/-! ### Alike arguments -/

/-- **Hold marks never influence rewriting.** From patterns, expressions, templates and rules that
differ at most in marks, all that is decided is decided alike, and all that is built differs at
most in marks. Which nodes are shared makes no other difference: whatever can come of putting
bindings in, of replacing and of using rules, on one side, differs at most in marks from whatever
can come of it on the other. -/
theorem rewriting_ignores_marks {pattern pattern' e e' template template' : Expr}
    {captures captures' : Captures} {rule rule' : Rule} {rules rules' : List Rule}
    {s s' : RuleSet} (hpattern : pattern.Alike pattern') (he : e.Alike e')
    (htemplate : template.Alike template') (hcaptures : captures.Alike captures')
    (hrule : rule.Alike rule') (hrules : List.Forall₂ Rule.Alike rules rules')
    (hs : s.Alike s') :
    Option.Rel Captures.Alike (Pattern.match? pattern e) (Pattern.match? pattern' e') ∧
    (∀ d d', captures.Substitutes template d → captures'.Substitutes template' d' → d.Alike d') ∧
    (∀ d d', e.ReplacesTo rules d → e'.ReplacesTo rules' d' → d.Alike d') ∧
    (∀ d d', e.ReplacesAllTo rules d → e'.ReplacesAllTo rules' d' → d.Alike d') ∧
    (s.insert rule).Alike (s'.insert rule') ∧
    (s.remove pattern).Alike (s'.remove pattern') ∧
    s.contains pattern = s'.contains pattern' ∧
    (∀ sharing sharing',
      Option.Rel Expr.Alike (s.resolve? e sharing) (s'.resolve? e' sharing')) ∧
    pattern.same e = pattern'.same e' ∧
    pattern.order e = pattern'.order e' ∧
    Weight.ofPattern pattern = Weight.ofPattern pattern' ∧
    e.render = e'.render := by
  have hpattern' : pattern.releaseHold = pattern'.releaseHold := hpattern
  have he' : e.releaseHold = e'.releaseHold := he
  rw [Rule.alike_iff] at hrule
  rw [RuleSet.alike_iff] at hs
  refine ⟨?matching, fun d d' h h' => h.alike h' hcaptures htemplate,
    fun d d' h h' => h.alike h' hrules he, fun d d' h h' => h.alike h' hrules he, ?insert, ?remove,
    ?contains, ?resolve, ?same, ?order, ?weight, ?render⟩
  case matching =>
    refine optionRel_of_map_eq (fun _ _ => Captures.alike_iff.mpr) ?_
    rw [← Pattern.match?_releaseHold, ← Pattern.match?_releaseHold, hpattern', he']
  case insert =>
    rw [RuleSet.alike_iff, ← RuleSet.insert_releaseHold, ← RuleSet.insert_releaseHold, hs, hrule]
  case remove =>
    rw [RuleSet.alike_iff, ← RuleSet.remove_releaseHold, ← RuleSet.remove_releaseHold, hs, hpattern']
  case contains =>
    rw [← RuleSet.contains_releaseHold s, hs, hpattern', RuleSet.contains_releaseHold]
  case resolve =>
    intro sharing sharing'
    refine optionRel_of_map_eq (fun _ _ => id) ?_
    rw [← RuleSet.resolve?_releaseHold s e sharing .never,
      ← RuleSet.resolve?_releaseHold s' e' sharing' .never, hs, he']
  case same => rw [← same_releaseHold, hpattern', he', same_releaseHold]
  case order => rw [← order_releaseHold, hpattern', he', order_releaseHold]
  case weight => rw [← Weight.ofPattern_releaseHold, hpattern', Weight.ofPattern_releaseHold]
  case render => rw [← render_releaseHold, he', render_releaseHold]

/-- A rule without marks and its held form, used on an expression and on its held form, give
results with different marks. -/
theorem rewriting_ignores_marks_held :
    let pattern : Expr := .call "f" [.call "Pattern" [.sym "x"]]
    let template : Expr := .call "h" [.sym "x"]
    let e : Expr := .call "f" [.call "g" [.sym "a"]]
    let captures : Captures := [(.sym "x", .sym "b")]
    let captures' : Captures := [(.symbol "x" true, .symbol "b" true)]
    let rule : Rule := ⟨pattern, template⟩
    let rule' : Rule := ⟨pattern.holdForm, template.holdForm⟩
    let s : RuleSet := ⟨[rule]⟩
    let s' : RuleSet := ⟨[rule']⟩
    pattern.Alike pattern.holdForm ∧ e.Alike e.holdForm ∧ template.Alike template.holdForm ∧
      captures.Alike captures' ∧ rule.Alike rule' ∧ s.Alike s' ∧
      s.resolve? e ≠ s'.resolve? e.holdForm ∧
      Option.Rel Expr.Alike (s.resolve? e) (s'.resolve? e.holdForm) := by
  intro pattern template e captures captures' rule rule' s s'
  have hpattern : pattern.Alike pattern.holdForm := rfl
  have htemplate : template.Alike template.holdForm := rfl
  have he : e.Alike e.holdForm := rfl
  have hcaptures : captures.Alike captures' := .cons ⟨rfl, rfl⟩ .nil
  have hrule : rule.Alike rule' := ⟨hpattern, htemplate⟩
  have hs : s.Alike s' := .cons hrule .nil
  have hall := rewriting_ignores_marks hpattern he htemplate hcaptures hrule hs hs
  refine ⟨hpattern, he, htemplate, hcaptures, hrule, hs, ?_, hall.2.2.2.2.2.2.2.1 .never .never⟩
  have hvalue : s.resolve? e = some (.call "h" [.call "g" [.sym "a"]]) := by cbv
  have hvalue' : s'.resolve? e.holdForm =
      some (.app (.symbol "h" true) [.apply (.symbol "g" true) [.symbol "a" true] true]) := by cbv
  rw [hvalue, hvalue']
  simp [Expr.call, Expr.app, Expr.sym]

end Reduct
