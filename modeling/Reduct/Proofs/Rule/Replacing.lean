import Reduct.Proofs.Expr.Positions
import Reduct.Proofs.Pattern.Substitution
import Reduct.Replace

/-!
# Which positions are replaced

Replacing from the top puts the instance of the first rule that accepts a node in the place of every
outermost node that some rule accepts, and does nothing else. What holds no such node comes through
as it is: for it the pass answers `none`, which says that the very node is handed back
(`Expr.replace_outermost`).

Replacing from the bottom visits the nodes in the opposite order and tries the rules on nodes that
it has built. As long as no rule accepts anything it builds nothing, and rules for atoms never
accept what it builds: then both ways are one.
-/

namespace Reduct

/-- Whether a rule accepts an expression is up to its pattern. -/
theorem Rule.resolve?_eq_none_iff {rule : Rule} {e : Expr} {s : Sharing} :
    rule.resolve? e s = none ↔ Pattern.match? rule.pattern e = none := by
  rw [resolve?, Option.map_eq_none_iff]

/-- A rule that gives back the very expression it is applied to accepts everything. -/
theorem Rule.resolve?_of_isIdentity {rule : Rule} (h : rule.isIdentity) (e : Expr) (s : Sharing) :
    rule.resolve? e s = some e := by
  obtain ⟨pattern, value⟩ := rule
  rw [isIdentity] at h
  split at h
  next key hkey =>
    obtain ⟨others, held, held', rfl⟩ := Pattern.key?_eq_some_iff.mp hkey
    have hmatch : Pattern.match? (.apply (.symbol "Pattern" held) (key :: others) held') e =
        some [(key, e)] := rfl
    have hbound : Captures.binding? [(key, e)] value = some e := by simp [Captures.binding?, h]
    rw [resolve?, hmatch, Option.map_some, Captures.instantiate,
      (Captures.isPass_instantiate? [(key, e)]).replaced hbound]
  next => simp at h

/-- The rule accepts an atom only, if it is a rule for one. -/
theorem Rule.resolve?_of_atom {rule : Rule} {e : Expr} (hatom : rule.pattern.application? = none)
    (he : e.application?.isSome) (s : Sharing) : rule.resolve? e s = none := by
  have haccepts : Pattern.acceptsAtom rule.pattern e = false := by
    cases e with
    | apply head args held => cases rule.pattern <;> rfl
    | number _ | string _ | symbol _ _ => simp [Expr.application?] at he
  rw [resolve?_eq_none_iff, Pattern.match?, Pattern.extend?_of_atom hatom, haccepts]
  rfl

namespace Replace

/-- What the node becomes, unless it is kept. -/
def Outcome.change? : Outcome → Option Expr
  | .kept => none
  | .became e => some e

/-- What the first rule in the list that accepts the expression makes of it. -/
def instance? (rules : List Rule) (e : Expr) (s : Sharing := .never) : Option Expr :=
  rules.findSome? fun rule => rule.resolve? e s.made

variable {rules : List Rule} {e : Expr} {s : Sharing}

theorem instance?_eq (rules : List Rule) (e : Expr) (s : Sharing) :
    instance? rules e s = (outcome? rules e s).map fun outcome => outcome.change?.getD e := by
  rw [instance?, outcome?, List.map_findSome?]
  congr 1
  funext rule
  rw [Function.comp_apply, Option.map_map]
  cases hresult : rule.resolve? e s.made with
  | none => rfl
  | some result =>
      cases hidentity : rule.isIdentity with
      | true =>
          have hsame := hresult.symm.trans (rule.resolve?_of_isIdentity hidentity e s.made)
          simpa [Outcome.change?] using hsame
      | false =>
          cases hsame : s.isSame [] e result with
          | true =>
              obtain rfl := s.eq_of_isSame hsame
              simp [Outcome.change?, hsame]
          | false => simp [Outcome.change?, hsame]

/-- Whether some rule accepts the expression is up to their patterns. -/
theorem instance?_eq_none_iff :
    instance? rules e s = none ↔ ∀ rule ∈ rules, Pattern.match? rule.pattern e = none := by
  simp only [instance?, List.findSome?_eq_none_iff, Rule.resolve?_eq_none_iff]

theorem outcome?_eq_none (h : instance? rules e s = none) : outcome? rules e s = none := by
  rw [instance?_eq] at h
  exact Option.map_eq_none_iff.mp h

theorem outcome?_of_atoms (hatoms : ∀ rule ∈ rules, rule.pattern.application? = none)
    (he : e.application?.isSome) : outcome? rules e s = none := by
  refine outcome?_eq_none (List.findSome?_eq_none_iff.mpr fun rule hrule => ?_)
  exact Rule.resolve?_of_atom (hatoms rule hrule) he s.made

/-- What becomes of an atom is up to the rules alone, from the top and from the bottom. -/
theorem replace?_of_atom (h : e.application? = none) :
    replace? rules e s = (outcome? rules e s).bind Outcome.change? := by
  cases e with
  | apply head args held => simp [Expr.application?] at h
  | number _ | string _ | symbol _ _ =>
      simp only [replace?]
      rcases outcome? rules _ _ with _ | _ | _ <;> rfl

theorem replaceAll?_of_atom (h : e.application? = none) :
    replaceAll? rules e s = (outcome? rules e s).bind Outcome.change? := by
  cases e with
  | apply head args held => simp [Expr.application?] at h
  | number _ | string _ | symbol _ _ =>
      simp only [replaceAll?, visit?, Option.getD_none]
      rcases outcome? rules _ _ with _ | _ | _ <;> rfl

/-- Replacing from the top is a pass that looks for nodes which a rule accepts. -/
theorem isPass_replace? (rules : List Rule) :
    IsPass (fun s e => instance? rules e s) (fun s e => replace? rules e s)
      (fun s es => replaceIn? rules es s) where
  decided s' h := instance?_eq_none_iff.mpr (instance?_eq_none_iff.mp h)
  nil _ := rfl
  cons _ _ _ := rfl
  replaced {s e v} hv := by
    rw [instance?_eq] at hv
    obtain ⟨outcome, houtcome, hchange⟩ := Option.map_eq_some_iff.mp hv
    cases e with
    | apply head args held =>
        rw [replace?, houtcome]
        cases outcome <;> exact hchange
    | number _ | string _ | symbol _ _ =>
        rw [replace?_of_atom rfl, houtcome]
        exact hchange
  atom {s e} hnone hatom := by rw [replace?_of_atom hatom, outcome?_eq_none hnone]; rfl
  apply {s head args held} hnone := by rw [replace?, outcome?_eq_none hnone]

mutual

/-- Replacing from the bottom hands back what holds nothing that a rule accepts. -/
theorem replaceAll?_eq_none : ∀ {e : Expr} (s : Sharing), e.Everywhere (instance? rules · = none) →
    replaceAll? rules e s = none
  | .apply head args held, s, h => by
      have hnode : Expr.rebuilt? head args (replaceAll? rules head s.first)
          (replaceAllIn? rules args s.rest) = none := by
        rw [replaceAll?_eq_none _ h.head, replaceAllIn?_eq_none _ fun _ => h.arg]
        rfl
      simp only [replaceAll?, visit?, hnode, Option.getD_none,
        outcome?_eq_none ((isPass_replace? rules).decided s h.self)]
  | .number _, s, h | .string _, s, h | .symbol .., s, h => by
      rw [replaceAll?_of_atom rfl, outcome?_eq_none ((isPass_replace? rules).decided s h.self)]
      rfl

theorem replaceAllIn?_eq_none : ∀ {es : List Expr} (s : Sharing),
    (∀ e ∈ es, e.Everywhere (instance? rules · = none)) → replaceAllIn? rules es s = none
  | [], _, _ => rfl
  | e :: es, s, h => by
      rw [replaceAllIn?, replaceAll?_eq_none _ (h e (by simp)),
        replaceAllIn?_eq_none _ fun e he => h e (by simp [he])]
      rfl

end

mutual

/-- Rules for atoms accept no node that was built, so the order of the visits does not show. -/
theorem replaceAll?_of_atoms (hatoms : ∀ rule ∈ rules, rule.pattern.application? = none) :
    ∀ (e : Expr) (s : Sharing), replaceAll? rules e s = replace? rules e s
  | .apply head args held, s => by
      have hnode : ((Expr.rebuilt? head args (replace? rules head s.first)
          (replaceIn? rules args s.rest)).getD (.apply head args held)).application?.isSome := by
        rw [Expr.getD_rebuilt?]
        rfl
      have he : (Expr.apply head args held).application?.isSome := rfl
      simp only [replaceAll?, visit?, replace?, replaceAll?_of_atoms hatoms head,
        replaceAllIn?_of_atoms hatoms args,
        outcome?_of_atoms hatoms hnode, outcome?_of_atoms hatoms he]
  | .number _, _ | .string _, _ | .symbol .., _ => by
      rw [replaceAll?_of_atom rfl, replace?_of_atom rfl]

theorem replaceAllIn?_of_atoms (hatoms : ∀ rule ∈ rules, rule.pattern.application? = none) :
    ∀ (es : List Expr) (s : Sharing), replaceAllIn? rules es s = replaceIn? rules es s
  | [], _ => rfl
  | e :: es, s => by
      rw [replaceAllIn?, replaceIn?, replaceAll?_of_atoms hatoms e,
        replaceAllIn?_of_atoms hatoms es]

end

end Replace

namespace Expr

open Replace

/-- **Replacing touches exactly the outermost positions that some rule accepts.** There stands the
instance of the first rule in the list that accepts what was there. A node that holds none is handed
back as it is, from the top and from the bottom. And if all left sides are atoms, replacing from the
bottom is replacing from the top. All this is so whichever nodes are shared. -/
theorem replace_outermost (rules : List Rule) (e : Expr) (s : Sharing) :
    e.Outermost (fun s d => instance? rules d s) s (e.replace rules s) ∧
    (∀ d : Expr, d.Everywhere (instance? rules · = none) → replace? rules d s = none) ∧
    (e.Everywhere (instance? rules · = none) → replaceAll? rules e s = none) ∧
    ((∀ rule ∈ rules, rule.pattern.application? = none) →
      replaceAll? rules e s = replace? rules e s ∧ e.replaceAll rules s = e.replace rules s) := by
  refine ⟨(isPass_replace? rules).outermost s e, fun d => (isPass_replace? rules).eq_none,
    replaceAll?_eq_none s, fun hatoms => ?_⟩
  have heq : replaceAll? rules e s = replace? rules e s := replaceAll?_of_atoms hatoms e s
  exact ⟨heq, by rw [replaceAll, replace, heq]⟩

/-- A node that is replaced holds another one that is accepted, and the held argument beside it is
handed back. The last argument stays an application, with its head replaced. -/
theorem replace_outermost_held :
    let ofSymbol : Rule := ⟨sym "h", sym "k"⟩
    let rules : List Rule :=
      [⟨call "f" [call "Pattern" [sym "x"]], call "g" [sym "x", sym "h"]⟩, ofSymbol]
    let inner : Expr := call "f" [call "f" [sym "a"]]
    let marked : Expr := (call "q" [sym "b"]).holdForm
    let e : Expr := call "p" [inner, marked, call "h" [sym "c"]]
    let unhit (d : Expr) : Prop := instance? rules d = none
    unhit e ∧ marked.Everywhere unhit ∧
      (e.replace rules).at? [.toArg 0] = some (call "g" [call "f" [sym "a"], sym "h"]) ∧
      (e.replace rules).at? [.toArg 1] = some marked ∧
      (e.replace rules).at? [.toArg 2, .toHead] = some (sym "k") ∧
      replace? rules marked = none ∧ replaceAll? rules marked = none ∧
      e.replaceAll [ofSymbol] = e.replace [ofSymbol] := by
  intro ofSymbol rules inner marked e unhit
  have he : unhit e := by cbv
  have hmarked : marked.Everywhere unhit := by
    refine .of_apply (by cbv) (.of_atom rfl (by cbv)) fun a ha => ?_
    obtain rfl := List.mem_singleton.mp ha
    exact .of_atom rfl (by cbv)
  have hreached {turn : Turn} {c : Expr} (hc : e.part? turn = some c) :
      e.ReachedBy (instance? rules ·) [turn] :=
    (reachedBy_cons hc).mpr ⟨he, reachedBy_nil _ c⟩
  have hhead : e.ReachedBy (instance? rules ·) [.toArg 2, .toHead] :=
    (reachedBy_cons rfl).mpr ⟨he, (reachedBy_cons rfl).mpr ⟨by cbv, reachedBy_nil _ _⟩⟩
  obtain ⟨hpositions, hhanded, -, -⟩ := replace_outermost rules e .never
  obtain ⟨-, -, hbottom, -⟩ := replace_outermost rules marked .never
  obtain ⟨-, -, -, hatoms⟩ := replace_outermost [ofSymbol] e .never
  refine ⟨he, hmarked, ?_, ?_, ?_, hhanded marked hmarked, hbottom hmarked, (hatoms ?_).2⟩
  · exact hpositions.replaced [.toArg 0] inner _ rfl (hreached rfl) (by cbv)
  · exact hpositions.untouched [.toArg 1] marked rfl (hreached rfl) hmarked
  · exact hpositions.replaced [.toArg 2, .toHead] (sym "h") _ rfl hhead (by cbv)
  · intro rule hrule
    obtain rfl := List.mem_singleton.mp hrule
    rfl

end Expr

end Reduct
