import Reduct.Proofs.Expr.Marks
import Reduct.Proofs.Expr.Positions

/-!
# Nodes that are handed back

Expressions share nodes. A function that gives an application new parts hands back the node it was
given if these are the very parts it has, and builds a new one without a mark if they are not
(`Expr.WithParts`). Whether equal parts are one node cannot be told from the expressions, but parts
that are one node are equal.

A pass leaves it open in one place only: what it puts in the place of a node may be that very node.
`TopDown` and `BottomUp` say what can come of a pass, whichever nodes are shared, where `none`
stands for the very expression that the pass was given. Every result consists of parts that were
given to the pass and of new applications. So what goes from an application to its parts, and from
parts to a new application, goes through every pass (`TopDown.hereditary`, `BottomUp.hereditary`).
And since a node that is handed back differs from a new one in its mark alone, all results are alike
(`IsPass.alike`).
-/

namespace Reduct

namespace Expr

/-- What comes of `e` when it is given a head and arguments. -/
inductive WithParts (e head : Expr) (args : List Expr) : Expr → Prop
  /-- They are the very parts it has. -/
  | kept {held : Bool} : e = .apply head args held → WithParts e head args e
  | built : WithParts e head args (.app head args)

section Rebuilding

variable {head e : Expr} {args es : List Expr} {held : Bool} {head' e' : Option Expr}
  {args' es' : Option (List Expr)}

theorem withParts_rebuilt? : (apply head args held).WithParts (head'.getD head) (args'.getD args)
    ((rebuilt? head args head' args').getD (.apply head args held)) := by
  rcases head' with _ | head' <;> rcases args' with _ | args'
  · exact .kept rfl
  all_goals exact .built

theorem rebuilt?_eq_none_iff :
    rebuilt? head args head' args' = none ↔ head' = none ∧ args' = none := by
  cases head' <;> cases args' <;> simp [rebuilt?]

theorem rebuiltArgs?_eq_none_iff : rebuiltArgs? e es e' es' = none ↔ e' = none ∧ es' = none := by
  cases e' <;> cases es' <;> simp [rebuiltArgs?]

end Rebuilding

theorem Alike.apply {f g : Expr} {as bs : List Expr} {held held' : Bool} (hf : f.Alike g)
    (has : releaseHolds as = releaseHolds bs) :
    (Expr.apply f as held).Alike (.apply g bs held') := by
  have hhead : f.releaseHold = g.releaseHold := hf
  rw [Alike, releaseHold, releaseHold, hhead, has]

/-- The property goes from an application to its parts, and from parts to a new application of
them. -/
structure Hereditary (P : Expr → Prop) : Prop where
  part {e d : Expr} {turn : Turn} : P e → e.part? turn = some d → P d
  app {head : Expr} {args : List Expr} : P head → (∀ a ∈ args, P a) → P (.app head args)

namespace Hereditary

variable {P : Expr → Prop} (hP : Hereditary P) {f e d : Expr} {as : List Expr} {held : Bool}
include hP

theorem head (h : P (.apply f as held)) : P f :=
  have hpart : (apply f as held).part? .toHead = some f := rfl
  hP.part h hpart

theorem arg (h : P (.apply f as held)) {a : Expr} (ha : a ∈ as) : P a := by
  obtain ⟨index, hindex⟩ := List.mem_iff_getElem?.mp ha
  have hpart : (apply f as held).part? (.toArg index) = some a := hindex
  exact hP.part h hpart

theorem withParts (he : P e) (hf : P f) (has : ∀ a ∈ as, P a) (h : e.WithParts f as d) : P d := by
  cases h with
  | kept => exact he
  | built => exact hP.app hf has

end Hereditary

/-- What holds of all parts is hereditary if it holds of new applications. -/
theorem hereditary_everywhere {P : Expr → Prop} (h : ∀ head args, P (.app head args)) :
    Hereditary (Everywhere P) where
  part he hd := he.part hd
  app hhead hargs := .of_apply (h _ _) hhead hargs

end Expr

/-- Are the expressions equal strings, or symbols of one name with the same mark? -/
def Expr.isSameAtom : Expr → Expr → Bool
  | .string a, .string b => a == b
  | .symbol a held, .symbol b held' => a == b && held == held'
  | _, _ => false

theorem Expr.eq_of_isSameAtom {a b : Expr} (h : a.isSameAtom b) : a = b := by
  cases a <;> cases b <;> simp_all [isSameAtom]

/-- Equal strings are one node, and so are symbols that are alike in name and mark. -/
def Sharing.ofAtoms : Sharing := ⟨fun _ => Expr.isSameAtom, Expr.eq_of_isSameAtom⟩

/-! ### Passes, whichever nodes are shared -/

mutual

/-- What can come of a pass from the top that puts `v` in the place of `e` when `puts e v`. -/
inductive TopDown (puts : Expr → Expr → Prop) : Expr → Option Expr → Prop
  | replaced {e v : Expr} : puts e v → TopDown puts e (some v)
  /-- The node is put in its own place. -/
  | same {e : Expr} : puts e e → TopDown puts e none
  | atom {e : Expr} : (∀ v, ¬ puts e v) → e.application? = none → TopDown puts e none
  | apply {head : Expr} {args : List Expr} {held : Bool} {head' : Option Expr}
      {args' : Option (List Expr)} : (∀ v, ¬ puts (.apply head args held) v) →
      TopDown puts head head' → TopDownAll puts args args' →
      TopDown puts (.apply head args held) (Expr.rebuilt? head args head' args')

/-- What can come of the pass over each expression of a list. -/
inductive TopDownAll (puts : Expr → Expr → Prop) : List Expr → Option (List Expr) → Prop
  | nil : TopDownAll puts [] none
  | cons {e : Expr} {es : List Expr} {e' : Option Expr} {es' : Option (List Expr)} :
      TopDown puts e e' → TopDownAll puts es es' →
      TopDownAll puts (e :: es) (Expr.rebuiltArgs? e es e' es')

end

/-- What can come of `e` at a pass from the bottom that has made `node?` of its parts. -/
inductive Visit (puts : Expr → Expr → Prop) (e : Expr) (node? : Option Expr) :
    Option Expr → Prop
  | replaced {v : Expr} : puts (node?.getD e) v → Visit puts e node? (some v)
  /-- The node that the pass was given is put in its own place. -/
  | same : puts (node?.getD e) e → Visit puts e node? none
  | left : (∀ v, ¬ puts (node?.getD e) v) → Visit puts e node? node?

mutual

/-- What can come of a pass from the bottom that puts `v` in the place of `e` when `puts e v`. -/
inductive BottomUp (puts : Expr → Expr → Prop) : Expr → Option Expr → Prop
  | atom {e : Expr} {e' : Option Expr} : e.application? = none → Visit puts e none e' →
      BottomUp puts e e'
  | apply {head : Expr} {args : List Expr} {held : Bool} {head' e' : Option Expr}
      {args' : Option (List Expr)} : BottomUp puts head head' → BottomUpAll puts args args' →
      Visit puts (.apply head args held) (Expr.rebuilt? head args head' args') e' →
      BottomUp puts (.apply head args held) e'

/-- What can come of the pass over each expression of a list. -/
inductive BottomUpAll (puts : Expr → Expr → Prop) : List Expr → Option (List Expr) → Prop
  | nil : BottomUpAll puts [] none
  | cons {e : Expr} {es : List Expr} {e' : Option Expr} {es' : Option (List Expr)} :
      BottomUp puts e e' → BottomUpAll puts es es' →
      BottomUpAll puts (e :: es) (Expr.rebuiltArgs? e es e' es')

end

section Hereditary

variable {P : Expr → Prop} {puts : Expr → Expr → Prop}

mutual

/-- **A hereditary property goes through a pass from the top,** if what is put in has it. -/
theorem TopDown.hereditary (hP : Expr.Hereditary P) (hputs : ∀ d v, P d → puts d v → P v) :
    ∀ {e : Expr} {e' : Option Expr}, TopDown puts e e' → P e → P (e'.getD e)
  | _, _, .replaced hv, he => hputs _ _ he hv
  | _, _, .same _, he | _, _, .atom .., he => he
  | _, _, .apply _ hhead hargs, he =>
      hP.withParts he (hhead.hereditary hP hputs (hP.head he))
        (hargs.hereditary hP hputs fun _ => hP.arg he) Expr.withParts_rebuilt?

theorem TopDownAll.hereditary (hP : Expr.Hereditary P) (hputs : ∀ d v, P d → puts d v → P v) :
    ∀ {es : List Expr} {es' : Option (List Expr)}, TopDownAll puts es es' → (∀ e ∈ es, P e) →
      ∀ e ∈ es'.getD es, P e
  | _, _, .nil, hes => hes
  | _, _, .cons he hes, h => by
      rw [Expr.getD_rebuiltArgs?]
      refine List.forall_mem_cons.mpr ⟨he.hereditary hP hputs (h _ (by simp)), ?_⟩
      exact hes.hereditary hP hputs fun e he => h e (by simp [he])

end

theorem Visit.hereditary (hputs : ∀ d v, P d → puts d v → P v) {e : Expr} {node? e' : Option Expr}
    (h : Visit puts e node? e') (he : P e) (hnode : P (node?.getD e)) : P (e'.getD e) := by
  cases h with
  | replaced hv => exact hputs _ _ hnode hv
  | same => exact he
  | left => exact hnode

mutual

/-- It goes through a pass from the bottom as well. -/
theorem BottomUp.hereditary (hP : Expr.Hereditary P) (hputs : ∀ d v, P d → puts d v → P v) :
    ∀ {e : Expr} {e' : Option Expr}, BottomUp puts e e' → P e → P (e'.getD e)
  | _, _, .atom _ hvisit, he => hvisit.hereditary hputs he he
  | _, _, .apply hhead hargs hvisit, he => by
      refine hvisit.hereditary hputs he (hP.withParts he ?_ ?_ Expr.withParts_rebuilt?)
      · exact hhead.hereditary hP hputs (hP.head he)
      · exact hargs.hereditary hP hputs fun _ => hP.arg he

theorem BottomUpAll.hereditary (hP : Expr.Hereditary P) (hputs : ∀ d v, P d → puts d v → P v) :
    ∀ {es : List Expr} {es' : Option (List Expr)}, BottomUpAll puts es es' → (∀ e ∈ es, P e) →
      ∀ e ∈ es'.getD es, P e
  | _, _, .nil, hes => hes
  | _, _, .cons he hes, h => by
      rw [Expr.getD_rebuiltArgs?]
      refine List.forall_mem_cons.mpr ⟨he.hereditary hP hputs (h _ (by simp)), ?_⟩
      exact hes.hereditary hP hputs fun e he => h e (by simp [he])

end

end Hereditary

/-! ### What a pass comes to -/

/-- Of what can be put in the place of a node, all of it alike, `hit` picks one. -/
structure Picks (hit : Sharing → Expr → Option Expr) (puts : Expr → Expr → Prop) : Prop where
  put {s : Sharing} {e v : Expr} : hit s e = some v → puts e v
  alike {e v : Expr} (s : Sharing) : puts e v → ∃ v', hit s e = some v' ∧ v.Alike v'

section Picks

variable {hit : Sharing → Expr → Option Expr} {puts : Expr → Expr → Prop} {s : Sharing}
  {e v : Expr}

theorem Picks.not_puts (h : Picks hit puts) (hnone : hit s e = none) (v : Expr) : ¬ puts e v := by
  intro hv
  obtain ⟨v', hhit, -⟩ := h.alike s hv
  rw [hnone] at hhit
  simp at hhit

theorem Picks.eq_none (h : Picks hit puts) (hnot : ∀ v, ¬ puts e v) : hit s e = none :=
  Option.eq_none_iff_forall_ne_some.mpr fun v hv => hnot v (h.put hv)

end Picks

namespace IsPass

variable {hit pass : Sharing → Expr → Option Expr}
  {passAll : Sharing → List Expr → Option (List Expr)} {puts : Expr → Expr → Prop} {s : Sharing}
  {e v : Expr}

theorem topDown_of_hit (h : IsPass hit pass passAll) (hhit : hit s e = some v) (hv : puts e v) :
    TopDown puts e (pass s e) := by
  have hresult := h.replaced hhit
  cases hpass : pass s e with
  | some v' =>
      obtain rfl : v' = v := by rwa [hpass] at hresult
      exact .replaced hv
  | none =>
      obtain rfl : e = v := by rwa [hpass] at hresult
      exact .same hv

theorem topDown_of_atom (h : IsPass hit pass passAll) (hpicks : Picks hit puts) (s : Sharing)
    (hatom : e.application? = none) : TopDown puts e (pass s e) := by
  cases hhit : hit s e with
  | some v => exact h.topDown_of_hit hhit (hpicks.put hhit)
  | none =>
      rw [h.atom hhit hatom]
      exact .atom (hpicks.not_puts hhit) hatom

mutual

/-- **A pass comes to one of its possible results,** whatever it is told of shared nodes. -/
theorem topDown (h : IsPass hit pass passAll) (hpicks : Picks hit puts) :
    ∀ (e : Expr) (s : Sharing), TopDown puts e (pass s e)
  | .apply head args held, s => by
      cases hhit : hit s (.apply head args held) with
      | some v => exact h.topDown_of_hit hhit (hpicks.put hhit)
      | none =>
          rw [h.apply hhit]
          exact .apply (hpicks.not_puts hhit) (h.topDown hpicks head _) (h.topDownAll hpicks args _)
  | .number _, s | .string _, s | .symbol .., s => h.topDown_of_atom hpicks s rfl

theorem topDownAll (h : IsPass hit pass passAll) (hpicks : Picks hit puts) :
    ∀ (es : List Expr) (s : Sharing), TopDownAll puts es (passAll s es)
  | [], s => h.nil s ▸ .nil
  | e :: es, s => h.cons s e es ▸ .cons (h.topDown hpicks e _) (h.topDownAll hpicks es _)

end

mutual

/-- **Which nodes are shared shows in the marks only.** -/
theorem alike (h : IsPass hit pass passAll) (hpicks : Picks hit puts) :
    ∀ {e : Expr} {e' : Option Expr} (s : Sharing), TopDown puts e e' →
      (e'.getD e).Alike ((pass s e).getD e)
  | _, _, s, .replaced hv | _, _, s, .same hv => by
      obtain ⟨v', hhit, halike⟩ := hpicks.alike s hv
      rwa [h.replaced hhit]
  | _, _, s, .atom hnot hatom => by
      rw [h.atom (hpicks.eq_none hnot) hatom]
      rfl
  | _, _, s, .apply hnot hhead hargs => by
      rw [h.apply (hpicks.eq_none hnot), Expr.getD_rebuilt?, Expr.getD_rebuilt?]
      exact .apply (h.alike hpicks _ hhead) (h.alikeAll hpicks _ hargs)

theorem alikeAll (h : IsPass hit pass passAll) (hpicks : Picks hit puts) :
    ∀ {es : List Expr} {es' : Option (List Expr)} (s : Sharing), TopDownAll puts es es' →
      Expr.releaseHolds (es'.getD es) = Expr.releaseHolds ((passAll s es).getD es)
  | _, _, s, .nil => by rw [h.nil]
  | _, _, s, .cons he hes => by
      have hfirst := h.alike hpicks s.first he
      rw [h.cons, Expr.getD_rebuiltArgs?, Expr.getD_rebuiltArgs?, Expr.releaseHolds,
        Expr.releaseHolds, hfirst, h.alikeAll hpicks s.rest hes]

end

section Unmarked

variable {hit' pass' : Sharing → Expr → Option Expr}
  {passAll' : Sharing → List Expr → Option (List Expr)}

/-- What the passes put in is the same, hold marks aside. -/
def HitsAlike (hit hit' : Sharing → Expr → Option Expr) : Prop :=
  ∀ s s' e, hit' s' e.releaseHold = (hit s e).map Expr.releaseHold

theorem releaseHold_of_hit (h : IsPass hit pass passAll) (h' : IsPass hit' pass' passAll')
    (halike : HitsAlike hit hit') (s s' : Sharing) (hhit : hit s e = some v) :
    (pass' s' e.releaseHold).getD e.releaseHold = ((pass s e).getD e).releaseHold := by
  have hhit' := halike s s' e
  rw [hhit, Option.map_some] at hhit'
  rw [h.replaced hhit, h'.replaced hhit']

theorem releaseHold_of_atom (h : IsPass hit pass passAll) (h' : IsPass hit' pass' passAll')
    (halike : HitsAlike hit hit') (s s' : Sharing) (hatom : e.application? = none)
    (hatom' : e.releaseHold.application? = none) :
    (pass' s' e.releaseHold).getD e.releaseHold = ((pass s e).getD e).releaseHold := by
  cases hhit : hit s e with
  | some v => exact h.releaseHold_of_hit h' halike s s' hhit
  | none =>
      have hhit' := halike s s' e
      rw [hhit, Option.map_none] at hhit'
      rw [h.atom hhit hatom, h'.atom hhit' hatom', Option.getD_none, Option.getD_none]

mutual

/-- **A pass over an expression without marks** comes to what the pass over the expression comes to,
hold marks aside, whichever nodes are shared in the one and in the other. -/
theorem getD_releaseHold (h : IsPass hit pass passAll) (h' : IsPass hit' pass' passAll')
    (halike : HitsAlike hit hit') : ∀ (e : Expr) (s s' : Sharing),
      (pass' s' e.releaseHold).getD e.releaseHold = ((pass s e).getD e).releaseHold
  | .apply head args held, s, s' => by
      cases hhit : hit s (.apply head args held) with
      | some v => exact h.releaseHold_of_hit h' halike s s' hhit
      | none =>
          have hhit' := halike s s' (.apply head args held)
          rw [hhit, Option.map_none, Expr.releaseHold] at hhit'
          rw [h.apply hhit, Expr.getD_rebuilt?, Expr.releaseHold, Expr.releaseHold,
            h'.apply hhit', Expr.getD_rebuilt?, h.getD_releaseHold h' halike head s.first,
            h.getD_releaseHolds h' halike args s.rest]
          rfl
  | .number _, s, s' | .string _, s, s' | .symbol .., s, s' =>
      h.releaseHold_of_atom h' halike s s' rfl rfl

theorem getD_releaseHolds (h : IsPass hit pass passAll) (h' : IsPass hit' pass' passAll')
    (halike : HitsAlike hit hit') : ∀ (es : List Expr) (s s' : Sharing),
      (passAll' s' (Expr.releaseHolds es)).getD (Expr.releaseHolds es) =
        Expr.releaseHolds ((passAll s es).getD es)
  | [], s, s' => by rw [h.nil, Expr.releaseHolds, h'.nil]; rfl
  | e :: es, s, s' => by
      rw [h.cons, Expr.getD_rebuiltArgs?, Expr.releaseHolds, Expr.releaseHolds, h'.cons,
        Expr.getD_rebuiltArgs?, h.getD_releaseHold h' halike e s.first,
        h.getD_releaseHolds h' halike es s.rest]

end

end Unmarked

end IsPass

end Reduct
