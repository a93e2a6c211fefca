import Reduct.Proofs.Expr.Releasing
import Reduct.Proofs.Rule.Sharing

/-!
# Hold marks reach down

Evaluation leaves a marked node alone together with all that lies below it. That is right because
below a marked node everything is marked. Holding an expression marks all of it, and nothing else
sets a mark. A function that puts something into a held expression builds all nodes above it anew,
without marks, and hands the held nodes back in which nothing has changed. So the parts of an
expression may be held when the expression is not, but not the other way round.

`Expr.Obtained` are the expressions that can be made with the functions of this library, whichever
nodes they share.
-/

namespace Reduct.Expr

/-- The expression can be obtained by building expressions, taking them apart, holding and releasing
them, giving them other parts, putting bindings in and replacing. -/
inductive Obtained : Expr → Prop
  | number (value : Float) : Obtained (.number value)
  | string (text : String) : Obtained (.string text)
  | symbol (name : String) : Obtained (.sym name)
  | apply {head : Expr} {args : List Expr} :
      Obtained head → (∀ a ∈ args, Obtained a) → Obtained (.app head args)
  | list {items : List Expr} : (∀ a ∈ items, Obtained a) → Obtained (.list items)
  | call (name : String) {args : List Expr} : (∀ a ∈ args, Obtained a) → Obtained (.call name args)
  | abort {e : Expr} (message : String) : Obtained e → Obtained (e.abort message)
  | part {e d : Expr} {turn : Turn} : Obtained e → e.part? turn = some d → Obtained d
  | holdForm {e : Expr} : Obtained e → Obtained e.holdForm
  | releaseHold {e : Expr} : Obtained e → Obtained e.releaseHold
  | withParts {e head d : Expr} {args : List Expr} :
      Obtained e → Obtained head → (∀ a ∈ args, Obtained a) → e.WithParts head args d → Obtained d
  | substituted {captures : Captures} {template e : Expr} :
      Obtained template → (∀ c ∈ captures, Obtained c.2) → captures.Substitutes template e →
      Obtained e
  | replaced {rules : List Rule} {e d : Expr} :
      Obtained e → (∀ rule ∈ rules, Obtained rule.value) → e.ReplacesTo rules d → Obtained d
  | replacedAll {rules : List Rule} {e d : Expr} :
      Obtained e → (∀ rule ∈ rules, Obtained rule.value) → e.ReplacesAllTo rules d → Obtained d

/-- If the node is held, it is a symbol or an application, and everything below it is held. -/
def HeldBelow (d : Expr) : Prop := d.isHeld → d.number? = none ∧ d.string? = none ∧ d.Marked true

variable {e : Expr}

theorem HeldBelow.of_unheld (h : e.isHeld = false) : e.HeldBelow := by
  intro hheld
  rw [h] at hheld
  simp at hheld

/-- A new application is not held, so it may have any parts. -/
theorem hereditary_heldBelow : Hereditary (Everywhere HeldBelow) :=
  hereditary_everywhere fun _ _ => .of_unheld rfl

theorem Marked.heldBelow (h : e.Marked true) : e.HeldBelow := by
  intro hheld
  cases h with
  | number | string => simp [isHeld] at hheld
  | symbol => exact ⟨rfl, rfl, .symbol⟩
  | apply hhead hargs => exact ⟨rfl, rfl, .apply hhead hargs⟩

/-- Where nothing is held, marks reach down. -/
theorem Marked.everywhere_heldBelow (h : e.Marked false) : e.Everywhere HeldBelow :=
  fun path d hd => .of_unheld (marked_false_iff.mp h path d hd)

theorem everywhere_heldBelow_call {name : String} {args : List Expr}
    (h : ∀ a ∈ args, a.Everywhere HeldBelow) : (call name args).Everywhere HeldBelow :=
  hereditary_heldBelow.app (.of_atom rfl (.of_unheld rfl)) h

/-- **No function leaves a held node with something below it that is not held.** -/
theorem Obtained.everywhere_heldBelow (h : e.Obtained) : e.Everywhere HeldBelow := by
  induction h with
  | number | string | symbol => exact .of_atom rfl (.of_unheld rfl)
  | apply _ _ ihhead ihargs => exact hereditary_heldBelow.app ihhead ihargs
  | list _ ih | call _ _ ih => exact everywhere_heldBelow_call ih
  | abort message _ ih =>
      rw [Expr.abort]
      split
      · exact ih
      · refine everywhere_heldBelow_call (List.forall_mem_cons.mpr ⟨ih, ?_⟩)
        exact List.forall_mem_singleton.mpr (.of_atom rfl (.of_unheld rfl))
  | part _ hpart ih => exact hereditary_heldBelow.part ih hpart
  | holdForm => exact fun path d hd => ((marked_holdForm _).everywhere path d hd).heldBelow
  | releaseHold => exact (marked_releaseHold _).everywhere_heldBelow
  | withParts _ _ _ hparts ih ihhead ihargs =>
      exact hereditary_heldBelow.withParts ih ihhead ihargs hparts
  | substituted _ _ hresult ih ihcaptures =>
      exact hresult.hereditary hereditary_heldBelow ih ihcaptures
  | replaced _ _ hresult ih ihrules => exact hresult.hereditary hereditary_heldBelow ih ihrules
  | replacedAll _ _ hresult ih ihrules => exact hresult.hereditary hereditary_heldBelow ih ihrules

/-! ### Which nodes it shows of -/

/-- Is the expression a number, a string, or marked? All that evaluation leaves alone is. -/
def isMarkedOrLiteral : Expr → Bool
  | .number _ | .string _ => true
  | .symbol _ held | .apply _ _ held => held

theorem Marked.isMarkedOrLiteral (h : e.Marked true) : e.isMarkedOrLiteral := by
  cases h <;> rfl

/-- If the node is held, its parts are numbers, strings or held. -/
theorem HeldBelow.parts {head : Expr} {args : List Expr} {held : Bool}
    (h : (apply head args held).HeldBelow) (hheld : (apply head args held).isMarkedOrLiteral) :
    head.isMarkedOrLiteral ∧ ∀ a ∈ args, a.isMarkedOrLiteral := by
  obtain ⟨-, hhead, hargs⟩ := marked_apply.mp (h hheld).2.2
  exact ⟨hhead.isMarkedOrLiteral, fun a ha => (hargs a ha).isMarkedOrLiteral⟩

end Reduct.Expr

namespace Reduct

open Reduct.Expr

/-- The answers about numbers, strings and marked nodes; no others are taken for one. -/
def Sharing.ofMarked (s : Sharing) : Sharing where
  isSame place node value := node.isMarkedOrLiteral && s.isSame place node value
  eq_of_isSame h := s.eq_of_isSame (Bool.and_eq_true_iff.mp h).2

theorem Sharing.ofMarked_ofMarked (s : Sharing) : s.ofMarked.ofMarked = s.ofMarked := by
  simp only [ofMarked, ← Bool.and_assoc, Bool.and_self]

section OfMarked

variable {hit pass : Sharing → Expr → Option Expr}
  {passAll : Sharing → List Expr → Option (List Expr)}

theorem IsPass.ofMarked_of_atom (h : IsPass hit pass passAll)
    (hhit : ∀ s e, hit s.ofMarked e = hit s e)
    (hput : ∀ s e v, hit s e = some v → e.isMarkedOrLiteral → pass s.ofMarked e = pass s e)
    (s : Sharing) {e : Expr} (hatom : e.application? = none) :
    (pass s.ofMarked e).getD e = (pass s e).getD e ∧
      (e.isMarkedOrLiteral → pass s.ofMarked e = pass s e) := by
  cases hv : hit s e with
  | some v => exact ⟨by rw [h.replaced hv, h.replaced ((hhit s e).trans hv)], hput s e v hv⟩
  | none =>
      rw [h.atom hv hatom, h.atom ((hhit s e).trans hv) hatom]
      exact ⟨rfl, fun _ => rfl⟩

mutual

/-- **That an unmarked node is put in its own place does not show** as long as marks reach down: the
nodes above it are not marked either, and are built anew as what they were. -/
theorem IsPass.ofMarked (h : IsPass hit pass passAll)
    (hhit : ∀ s e, hit s.ofMarked e = hit s e)
    (hput : ∀ s e v, hit s e = some v → e.isMarkedOrLiteral → pass s.ofMarked e = pass s e) :
    ∀ (e : Expr) (s : Sharing), e.Everywhere HeldBelow →
      (pass s.ofMarked e).getD e = (pass s e).getD e ∧
        (e.isMarkedOrLiteral → pass s.ofMarked e = pass s e)
  | .apply head args held, s, he => by
      cases hv : hit s (.apply head args held) with
      | some v => exact ⟨by rw [h.replaced hv, h.replaced ((hhit s _).trans hv)], hput s _ v hv⟩
      | none =>
          obtain ⟨hhead, hhead'⟩ := h.ofMarked hhit hput head s.first he.head
          obtain ⟨hargs, hargs'⟩ := h.ofMarkedAll hhit hput args s.rest fun _ => he.arg
          have happly := h.apply ((hhit s _).trans hv)
          have hkept (hheld : (Expr.apply head args held).isMarkedOrLiteral) :
              pass s.ofMarked (.apply head args held) = pass s (.apply head args held) := by
            obtain ⟨hmarked, hmarkeds⟩ := he.self.parts hheld
            rw [happly, h.apply hv]
            exact congrArg₂ _ (hhead' hmarked) (hargs' hmarkeds)
          refine ⟨?_, hkept⟩
          cases held with
          | true => rw [hkept rfl]
          | false =>
              rw [happly, h.apply hv, getD_rebuilt?, getD_rebuilt?]
              exact congrArg₂ (fun head args => Expr.app head args) hhead hargs
  | .number _, s, _ | .string _, s, _ | .symbol .., s, _ => h.ofMarked_of_atom hhit hput s rfl

theorem IsPass.ofMarkedAll (h : IsPass hit pass passAll)
    (hhit : ∀ s e, hit s.ofMarked e = hit s e)
    (hput : ∀ s e v, hit s e = some v → e.isMarkedOrLiteral → pass s.ofMarked e = pass s e) :
    ∀ (es : List Expr) (s : Sharing), (∀ e ∈ es, e.Everywhere HeldBelow) →
      (passAll s.ofMarked es).getD es = (passAll s es).getD es ∧
        ((∀ e ∈ es, e.isMarkedOrLiteral) → passAll s.ofMarked es = passAll s es)
  | [], s, _ => by rw [h.nil, h.nil]; exact ⟨rfl, fun _ => rfl⟩
  | e :: es, s, hes => by
      obtain ⟨he, he'⟩ := h.ofMarked hhit hput e s.first (hes e (by simp))
      obtain ⟨hothers, hothers'⟩ := h.ofMarkedAll hhit hput es s.rest fun e he => hes e (by simp [he])
      rw [h.cons, h.cons]
      refine ⟨?_, fun hmarked => ?_⟩
      · rw [getD_rebuiltArgs?, getD_rebuiltArgs?]
        exact congrArg₂ _ he hothers
      · exact congrArg₂ _ (he' (hmarked e (by simp))) (hothers' fun e he => hmarked e (by simp [he]))

end

end OfMarked

theorem Sharing.change?_ofMarked {node : Expr} (h : node.isMarkedOrLiteral) (s : Sharing)
    (value : Expr) : s.ofMarked.change? node value = s.change? node value := by
  simp only [change?, Sharing.ofMarked, h, Bool.true_and]

theorem Captures.instantiate_ofMarked (captures : Captures) {template : Expr}
    (h : template.Everywhere HeldBelow) (s : Sharing) :
    captures.instantiate template s.ofMarked = captures.instantiate template s := by
  refine (captures.isPass_instantiate?.ofMarked (fun _ _ => rfl) ?_ template s h).1
  intro s e v hv hmarked
  cases e with
  | apply head args held =>
      rw [instantiate?_apply, instantiate?_apply, hv]
      exact s.change?_ofMarked hmarked v
  | number _ | string _ | symbol _ _ =>
      rw [instantiate?_of_atom rfl, instantiate?_of_atom rfl, hv]
      exact s.change?_ofMarked hmarked v

theorem Rule.resolve?_ofMarked {rule : Rule} (h : rule.value.Everywhere HeldBelow) (e : Expr)
    (s : Sharing) : rule.resolve? e s.ofMarked = rule.resolve? e s :=
  Rule.resolve?_congr (fun captures => captures.instantiate_ofMarked h s) e

namespace Replace

theorem visit?_some (rules : List Rule) (e node : Expr) (s : Sharing) :
    visit? rules e (some node) s = some ((instance? rules node s).getD node) := by
  rw [visit?, Option.getD_some, instance?_eq]
  rcases outcome? rules node s with _ | _ | _ <;> rfl

variable {rules : List Rule} {e : Expr}

section Rules

variable (hrules : ∀ rule ∈ rules, rule.value.Everywhere HeldBelow)
include hrules

theorem instance?_ofMarked (s : Sharing) (e : Expr) :
    instance? rules e s.ofMarked = instance? rules e s :=
  findSome?_congr fun rule hrule => Rule.resolve?_ofMarked (hrules rule hrule) e s.made

theorem outcome?_ofMarked (s : Sharing) (he : e.isMarkedOrLiteral) :
    outcome? rules e s.ofMarked = outcome? rules e s := by
  refine findSome?_congr fun rule hrule => ?_
  have hresolve : rule.resolve? e s.ofMarked.made = rule.resolve? e s.made :=
    Rule.resolve?_ofMarked (hrules rule hrule) e s.made
  rw [hresolve]
  simp only [Sharing.ofMarked, he, Bool.true_and]

/-- What is left of a node that is marked, or a literal. -/
theorem visit?_ofMarked (s : Sharing) (node? : Option Expr) (he : e.isMarkedOrLiteral) :
    visit? rules e node? s.ofMarked = visit? rules e node? s := by
  cases node? with
  | none => rw [visit?, visit?, Option.getD_none, outcome?_ofMarked hrules s he]
  | some node => rw [visit?_some, visit?_some, instance?_ofMarked hrules]

theorem replace_ofMarked (s : Sharing) (h : e.Everywhere HeldBelow) :
    e.replace rules s.ofMarked = e.replace rules s := by
  refine ((isPass_replace? rules).ofMarked (instance?_ofMarked hrules) ?_ e s h).1
  intro s e v hv hmarked
  cases e with
  | apply head args held =>
      have houtcome : outcome? rules (.apply head args held) s ≠ none := by
        intro hnone
        rw [instance?_eq, hnone] at hv
        simp at hv
      rw [replace?, replace?, outcome?_ofMarked hrules s hmarked]
      split
      next => rfl
      next => rfl
      next hnone => exact absurd hnone houtcome
  | number _ | string _ | symbol _ _ =>
      rw [replace?_of_atom rfl, replace?_of_atom rfl, outcome?_ofMarked hrules s hmarked]

end Rules

mutual

theorem getD_replaceAll?_ofMarked (hrules : ∀ rule ∈ rules, rule.value.Everywhere HeldBelow) :
    ∀ (e : Expr) (s : Sharing), e.Everywhere HeldBelow →
    (replaceAll? rules e s.ofMarked).getD e = (replaceAll? rules e s).getD e ∧
      (e.isMarkedOrLiteral → replaceAll? rules e s.ofMarked = replaceAll? rules e s)
  | .apply head args held, s, he => by
      obtain ⟨hhead, hhead'⟩ := getD_replaceAll?_ofMarked hrules head s.first he.head
      obtain ⟨hargs, hargs'⟩ := getD_replaceAllIn?_ofMarked hrules args s.rest fun _ => he.arg
      have hkept (hheld : (Expr.apply head args held).isMarkedOrLiteral) :
          replaceAll? rules (.apply head args held) s.ofMarked =
            replaceAll? rules (.apply head args held) s := by
        obtain ⟨hmarked, hmarkeds⟩ := he.self.parts hheld
        rw [replaceAll?, replaceAll?, ← hhead' hmarked, ← hargs' hmarkeds]
        exact visit?_ofMarked hrules s _ hheld
      refine ⟨?_, hkept⟩
      cases held with
      | true => rw [hkept rfl]
      | false =>
          rw [replaceAll?, replaceAll?, getD_visit?, getD_visit?, getD_rebuilt?, getD_rebuilt?,
            ← hhead, ← hargs, instance?_ofMarked hrules]
          rfl
  | .number _, s, _ | .string _, s, _ =>
      have hkept := visit?_ofMarked hrules s none rfl
      ⟨congrArg (Option.getD · _) hkept, fun _ => hkept⟩
  | .symbol name held, s, _ => by
      refine ⟨?_, visit?_ofMarked hrules s none⟩
      rw [replaceAll?, replaceAll?, getD_visit?, getD_visit?, instance?_ofMarked hrules]
      all_goals simp

theorem getD_replaceAllIn?_ofMarked (hrules : ∀ rule ∈ rules, rule.value.Everywhere HeldBelow) :
    ∀ (es : List Expr) (s : Sharing),
    (∀ e ∈ es, e.Everywhere HeldBelow) →
      (replaceAllIn? rules es s.ofMarked).getD es = (replaceAllIn? rules es s).getD es ∧
        ((∀ e ∈ es, e.isMarkedOrLiteral) →
          replaceAllIn? rules es s.ofMarked = replaceAllIn? rules es s)
  | [], _, _ => ⟨rfl, fun _ => rfl⟩
  | e :: es, s, hes => by
      obtain ⟨he, he'⟩ := getD_replaceAll?_ofMarked hrules e s.first (hes e (by simp))
      obtain ⟨hothers, hothers'⟩ :=
        getD_replaceAllIn?_ofMarked hrules es s.rest fun e he => hes e (by simp [he])
      rw [replaceAllIn?, replaceAllIn?]
      refine ⟨?_, fun hmarked => ?_⟩
      · rw [getD_rebuiltArgs?, getD_rebuiltArgs?]
        exact congrArg₂ _ he hothers
      · exact congrArg₂ _ (he' (hmarked e (by simp))) (hothers' fun e he => hmarked e (by simp [he]))

end

theorem replaceAll_ofMarked (hrules : ∀ rule ∈ rules, rule.value.Everywhere HeldBelow)
    (s : Sharing) (h : e.Everywhere HeldBelow) :
    e.replaceAll rules s.ofMarked = e.replaceAll rules s :=
  (getD_replaceAll?_ofMarked hrules e s h).1

end Replace

end Reduct

namespace Reduct.Expr

variable {e : Expr}

/-- **Hold marks reach down.** In whatever can be obtained, numbers and strings are not held, and
below a held node every symbol and every application is held. Releasing an expression leaves no
mark, does not show in its text, and hands back the very expression exactly if there was no mark;
what was held first is released to the same. And what matching binds, what comes of putting bindings
in and of replacing can be obtained, if the rest can. -/
theorem marks_reach_down :
    (∀ e : Expr, e.Obtained → e.Everywhere HeldBelow) ∧
    (∀ e : Expr, e.releaseHold.Everywhere (·.isHeld = false) ∧ e.releaseHold.render = e.render ∧
      e.releaseHold?.getD e = e.releaseHold ∧
      (e.releaseHold? = none ↔ e.Everywhere (·.isHeld = false)) ∧
      e.holdForm.releaseHold = e.releaseHold) ∧
    (∀ (pattern e : Expr) (captures : Captures), e.Obtained →
      Pattern.match? pattern e = some captures → ∀ c ∈ captures, c.2.Obtained) ∧
    (∀ (captures : Captures) (template : Expr) (s : Sharing), template.Obtained →
      (∀ c ∈ captures, c.2.Obtained) → (captures.instantiate template s).Obtained) ∧
    (∀ (rules : List Rule) (e : Expr) (s : Sharing), e.Obtained →
      (∀ rule ∈ rules, rule.value.Obtained) →
      (e.replace rules s).Obtained ∧ (e.replaceAll rules s).Obtained) := by
  refine ⟨fun e => Obtained.everywhere_heldBelow,
    fun e => ⟨?unmarked, ?text, ?result, ?same, ?holding⟩, ?matching, ?instantiate, ?replace⟩
  case unmarked => exact marked_false_iff.mp (marked_releaseHold e)
  case text => exact render_releaseHold e
  case result => exact getD_releaseHold? e
  case same => rw [releaseHold?_eq_none_iff, marked_false_iff]
  case holding => exact releaseHold_holdForm e
  case matching =>
    intro pattern e captures he hmatch
    exact Pattern.hereditary_match? ⟨.part, .apply⟩ he hmatch
  case instantiate =>
    intro captures template s htemplate hcaptures
    exact .substituted htemplate hcaptures (captures.substitutes_instantiate template s)
  case replace =>
    intro rules e s he hrules
    exact ⟨.replaced he hrules (e.replacesTo_replace rules s),
      .replacedAll he hrules (e.replacesAllTo_replaceAll rules s)⟩

/-- An argument that is held and one that is not are put into a held template. What stays as it was
stays held, the application around them does not. -/
theorem marks_reach_down_instance :
    let capture (name : String) : Expr := call "Pattern" [sym name]
    let pattern : Expr := call "f" [capture "x", capture "y"]
    let marked : Expr := (call "h" [sym "b", .string "s"]).holdForm
    let e : Expr := call "f" [sym "a", marked]
    let template : Expr := (call "k" [sym "x", call "g" [sym "y"], call "q" [sym "z"]]).holdForm
    let captures : Captures := [(sym "x", sym "a"), (sym "y", marked)]
    let result : Expr := captures.instantiate template
    let rules : List Rule := [⟨sym "b", template⟩]
    e.Obtained ∧ template.Obtained ∧ Pattern.match? pattern e = some captures ∧
      (∀ rule ∈ rules, rule.value.Obtained) ∧
      result.isHeld = false ∧ result.Everywhere HeldBelow ∧
      result.at? [.toArg 1, .toArg 0] = some marked ∧ marked.isHeld ∧ marked.Marked true ∧
      (result.replace rules).Everywhere HeldBelow ∧ (result.replaceAll rules).Everywhere HeldBelow ∧
      result.releaseHold? ≠ none ∧ result.releaseHold.releaseHold? = none ∧
      result.releaseHold.render = result.render := by
  intro capture pattern marked e template captures result rules
  obtain ⟨hbelow, hrelease, hmatching, hinstantiate, hreplace⟩ := marks_reach_down
  have he : e.Obtained := by
    refine .call "f" (List.forall_mem_cons.mpr ⟨.symbol "a", List.forall_mem_singleton.mpr ?_⟩)
    refine .holdForm (.call "h" (List.forall_mem_cons.mpr ⟨.symbol "b", ?_⟩))
    exact List.forall_mem_singleton.mpr (.string "s")
  have htemplate : template.Obtained := by
    refine .holdForm (.call "k" ?_)
    simp only [List.forall_mem_cons]
    refine ⟨.symbol "x", .call "g" ?_, .call "q" ?_, by simp⟩
    · exact List.forall_mem_singleton.mpr (.symbol "y")
    · exact List.forall_mem_singleton.mpr (.symbol "z")
  have hrules : ∀ rule ∈ rules, rule.value.Obtained := List.forall_mem_singleton.mpr htemplate
  have hmatch : Pattern.match? pattern e = some captures := by cbv
  have hresult : result.Obtained :=
    hinstantiate captures template .never htemplate (hmatching pattern e captures he hmatch)
  have hreplaced := hreplace rules result .never hresult hrules
  have hplace : result.at? [.toArg 1, .toArg 0] = some marked := by cbv
  obtain ⟨-, htext, -, hsame, -⟩ := hrelease result
  obtain ⟨-, -, -, hagain, -⟩ := hrelease result.releaseHold
  refine ⟨he, htemplate, hmatch, hrules, rfl, hbelow result hresult, hplace, rfl, ?_,
    hbelow _ hreplaced.1, hbelow _ hreplaced.2, ?_, hagain.mpr (hrelease result).1, htext⟩
  · exact (hbelow result hresult _ marked hplace rfl).2.2
  · intro hnone
    have hunheld := hsame.mp hnone [.toArg 1, .toArg 0] marked hplace
    simp [marked, holdForm, isHeld] at hunheld

end Reduct.Expr
