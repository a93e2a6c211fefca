import Reduct.Proofs.Expr.Variables
import Reduct.Proofs.Pattern.Matching

/-!
# Putting bindings in at once and in turn

Bindings are put into a template by a pass from the top, which looks for what equals a key
(`Captures.isPass_instantiate?`). Which bindings these are shows only in what each expression is
bound to (`Captures.instantiate?_congr`).

Bindings for different variables that do not occur in the bindings themselves can be put in one
after the other: what the first pair leaves of the template, and the binding that it puts in, are
for the others what they would have been without it (`Captures.instantiate?_cons`). In which order
they come makes no difference (`Captures.Independent.foldl_instantiate`).
-/

namespace Reduct

open Reduct.Expr

namespace Captures

variable {captures captures' : Captures} {c : Expr × Expr} {e bound : Expr}

/-! ### The pass over a template -/

/-- What is not bound to itself is replaced by another node. -/
theorem change?_of_binding? (h : ∀ e, captures.binding? e ≠ some e)
    (hbound : captures.binding? e = some bound) (s : Sharing) :
    s.change? e bound = Sharing.never.change? e bound := by
  rw [Sharing.change?_never, Sharing.change?, if_neg]
  intro hsame
  obtain rfl := s.eq_of_isSame hsame
  exact h e hbound

theorem instantiate?_of_atom (h : e.application? = none) (s : Sharing) :
    captures.instantiate? e s = (captures.binding? e).bind (s.change? e) := by
  cases e with
  | apply head args held => simp [application?] at h
  | number _ | string _ | symbol _ _ => rfl

theorem instantiate?_atom (h : e.application? = none) :
    captures.instantiate? e = captures.binding? e := by
  rw [instantiate?_of_atom h]
  exact Option.bind_fun_some _

theorem instantiate?_apply (captures : Captures) (head : Expr) (args : List Expr) (held : Bool)
    (s : Sharing) :
    captures.instantiate? (.apply head args held) s =
      match captures.binding? (.apply head args held) with
      | some bound => s.change? (.apply head args held) bound
      | none => rebuilt? head args (captures.instantiate? head s.first)
          (captures.instantiateAll? args s.rest) :=
  instantiate?.eq_1 ..

/-- Putting bindings in is a pass that looks for what equals a key. -/
theorem isPass_instantiate? (captures : Captures) :
    IsPass (fun _ => captures.binding?) (fun s e => captures.instantiate? e s)
      (fun s es => captures.instantiateAll? es s) where
  decided _ h := h
  nil _ := rfl
  cons _ _ _ := rfl
  replaced {s e v} hv := by
    cases e with
    | apply head args held => rw [instantiate?_apply, hv, Sharing.getD_change?]
    | number _ | string _ | symbol _ _ =>
        rw [instantiate?_of_atom rfl, hv, Option.bind_some, Sharing.getD_change?]
  atom {s e} hnone hatom := by rw [instantiate?_of_atom hatom, hnone, Option.bind_none]
  apply {s head args held} hnone := by rw [instantiate?_apply, hnone]

theorem getD_instantiateAll? (captures : Captures) (templates : List Expr) :
    (captures.instantiateAll? templates).getD templates =
      templates.map (captures.instantiate ·) :=
  @getD_passAll (captures.instantiate? ·) (captures.instantiateAll? ·) rfl (fun _ _ => rfl) templates

mutual

theorem instantiate?_congr (h : ∀ e, captures.binding? e = captures'.binding? e) :
    ∀ e s, captures.instantiate? e s = captures'.instantiate? e s
  | .apply head args held, s => by
      rw [instantiate?_apply, instantiate?_apply, h, instantiate?_congr h head,
        instantiateAll?_congr h args]
  | .number _, s | .string _, s | .symbol .., s => by
      rw [instantiate?_of_atom rfl, instantiate?_of_atom rfl, h]

theorem instantiateAll?_congr (h : ∀ e, captures.binding? e = captures'.binding? e) :
    ∀ es s, captures.instantiateAll? es s = captures'.instantiateAll? es s
  | [], _ => rfl
  | e :: es, s => by
      rw [instantiateAll?, instantiateAll?, instantiate?_congr h e, instantiateAll?_congr h es]

end

mutual

/-- **Which nodes are shared shows only if something is bound to itself.** -/
theorem instantiate?_of_ne (h : ∀ e, captures.binding? e ≠ some e) :
    ∀ e s, captures.instantiate? e s = captures.instantiate? e
  | .apply head args held, s => by
      rw [instantiate?_apply, instantiate?_apply, instantiate?_of_ne h head s.first,
        instantiate?_of_ne h head Sharing.never.first, instantiateAll?_of_ne h args s.rest,
        instantiateAll?_of_ne h args Sharing.never.rest]
      split
      next bound hbound => exact change?_of_binding? h hbound s
      next => rfl
  | .number _, s | .string _, s | .symbol .., s => by
      rw [instantiate?_of_atom rfl, instantiate?_of_atom rfl]
      exact Option.bind_congr fun bound hbound => change?_of_binding? h hbound s

theorem instantiateAll?_of_ne (h : ∀ e, captures.binding? e ≠ some e) :
    ∀ es s, captures.instantiateAll? es s = captures.instantiateAll? es
  | [], _ => rfl
  | e :: es, s => by
      rw [instantiateAll?, instantiateAll?, instantiate?_of_ne h e s.first,
        instantiate?_of_ne h e Sharing.never.first, instantiateAll?_of_ne h es s.rest,
        instantiateAll?_of_ne h es Sharing.never.rest]

end

/-! ### What is bound -/

theorem exists_of_binding? (h : captures.binding? e = some bound) :
    ∃ c ∈ captures, c.1.same e ∧ c.2 = bound := by
  obtain ⟨c, hc, hbound⟩ := Option.map_eq_some_iff.mp h
  have hsame := List.find?_some hc
  exact ⟨c, List.mem_of_find?_eq_some hc, hsame, hbound⟩

theorem exists_binding? (hc : c ∈ captures) (hsame : c.1.same e) :
    ∃ bound, captures.binding? e = some bound := by
  rw [← Option.isSome_iff_exists, binding?, Option.isSome_map, List.find?_isSome]
  exact ⟨c, hc, hsame⟩

/-! ### Keys that are variables -/

/-- Every key is a variable. -/
def HasVariables (captures : Captures) : Prop :=
  ∀ c ∈ captures, ∃ name, c.1.symbol? = some name ∧ IsVariable name

theorem HasVariables.of_cons (h : HasVariables (c :: captures)) : captures.HasVariables := by
  intro d hd
  exact h d (List.mem_cons_of_mem c hd)

theorem HasVariables.of_subset (h : captures.HasVariables) (hsubset : captures' ⊆ captures) :
    captures'.HasVariables := by
  intro c hc
  exact h c (hsubset hc)

/-- What is bound is a symbol with the name of a key. -/
theorem HasVariables.binding?_eq_none (h : captures.HasVariables)
    (hne : ∀ c ∈ captures, c.1.symbol? ≠ e.symbol?) : captures.binding? e = none := by
  rw [binding?, Option.map_eq_none_iff, List.find?_eq_none]
  intro c hc hsame
  obtain ⟨name, hname, hvariable⟩ := h c hc
  refine hne c hc ?_
  rw [hname, (same_variable_iff hvariable hname e).mp hsame]

theorem HasVariables.binding?_apply (h : captures.HasVariables) (head : Expr) (args : List Expr)
    (held : Bool) : captures.binding? (.apply head args held) = none := by
  refine h.binding?_eq_none fun c hc => ?_
  obtain ⟨name, hname, -⟩ := h c hc
  rw [hname]
  exact Option.some_ne_none name

/-- A template without the keys holds nothing to put a binding in for. -/
theorem HasVariables.instantiate?_eq_none (h : captures.HasVariables)
    (hfree : ∀ c ∈ captures, ∀ name, c.1.symbol? = some name → e.Names (· ≠ name)) :
    captures.instantiate? e = none := by
  have hnone : e.Everywhere fun d => captures.binding? d = none := fun path d hd =>
    h.binding?_eq_none fun c hc => ?_
  · exact captures.isPass_instantiate?.eq_none (s := .never) hnone
  obtain ⟨name, hname, -⟩ := h c hc
  intro hsymbol
  exact Everywhere.of_names (hfree c hc name hname) path d hd name (hsymbol.symm.trans hname) rfl

/-- What becomes of an unmarked application. -/
theorem HasVariables.instantiate_app (h : captures.HasVariables) (head : Expr)
    (args : List Expr) :
    captures.instantiate (.app head args) =
      .app (captures.instantiate head) (args.map (captures.instantiate ·)) := by
  rw [instantiate, instantiate?_apply, h.binding?_apply]
  simp only [getD_rebuilt?, Sharing.turn_never, getD_instantiateAll?, Bool.false_and]
  rfl

/-! ### One pair first -/

/-- An application after two passes in turn, where the second takes the results of the first. -/
theorem rebuilt?_or {f F : Expr → Expr} {g : List Expr → List Expr} {head : Expr}
    {args : List Expr} {first second : Option Expr} {firsts seconds : Option (List Expr)}
    (hF : ∀ head args, F (.app head args) = .app (f head) (g args))
    (hhead : second.getD head = f head) (hargs : seconds.getD args = g args) :
    rebuilt? head args ((first.map f).or second) ((firsts.map g).or seconds) =
      ((rebuilt? head args first firsts).map F).or (rebuilt? head args second seconds) := by
  cases first <;> cases firsts <;> simp [rebuilt?, hF, hhead, hargs]

theorem rebuiltArgs?_or {f : Expr → Expr} {g : List Expr → List Expr} {e : Expr}
    {es : List Expr} {first second : Option Expr} {firsts seconds : Option (List Expr)}
    (hg : ∀ e es, g (e :: es) = f e :: g es) (hfirst : second.getD e = f e)
    (hothers : seconds.getD es = g es) :
    rebuiltArgs? e es ((first.map f).or second) ((firsts.map g).or seconds) =
      ((rebuiltArgs? e es first firsts).map g).or (rebuiltArgs? e es second seconds) := by
  cases first <;> cases firsts <;> simp [rebuiltArgs?, hg, hfirst, hothers]

mutual

/-- **A pair can be put in before the others,** if these put nothing into its binding. -/
theorem instantiate?_cons (h : HasVariables (c :: captures))
    (hclosed : captures.instantiate? c.2 = none) : ∀ template : Expr,
    instantiate? (c :: captures) template =
      ((instantiate? [c] template).map (captures.instantiate ·)).or
        (captures.instantiate? template)
  | .apply head args held => by
      have hone : HasVariables [c] := h.of_subset (by simp)
      rw [instantiate?_apply, h.binding?_apply, instantiate?_apply, hone.binding?_apply,
        instantiate?_apply, h.of_cons.binding?_apply]
      simp only [Sharing.turn_never, instantiate?_cons h hclosed head,
        instantiateAll?_cons h hclosed args]
      exact rebuilt?_or h.of_cons.instantiate_app rfl (captures.getD_instantiateAll? args)
  | .number _ | .string _ | .symbol .. => by
      have hbinding : captures.instantiate c.2 = c.2 := by rw [instantiate, hclosed]; rfl
      rw [instantiate?_atom rfl, instantiate?_atom rfl, instantiate?_atom rfl, binding?_cons,
        binding?_cons]
      split
      · simp [hbinding]
      · simp [binding?]

theorem instantiateAll?_cons (h : HasVariables (c :: captures))
    (hclosed : captures.instantiate? c.2 = none) : ∀ templates : List Expr,
    instantiateAll? (c :: captures) templates =
      ((instantiateAll? [c] templates).map (List.map (captures.instantiate ·))).or
        (captures.instantiateAll? templates)
  | [] => rfl
  | e :: es => by
      simp only [instantiateAll?, Sharing.turn_never, instantiate?_cons h hclosed e,
        instantiateAll?_cons h hclosed es]
      exact rebuiltArgs?_or (fun _ _ => rfl) rfl (captures.getD_instantiateAll? es)

end

theorem instantiate_cons (h : HasVariables (c :: captures))
    (hclosed : captures.instantiate? c.2 = none) (template : Expr) :
    instantiate (c :: captures) template = captures.instantiate (instantiate [c] template) := by
  rw [instantiate, instantiate?_cons h hclosed, instantiate.eq_def [c]]
  cases instantiate? [c] template <;> rfl

/-! ### In any order -/

/-- The keys are different variables, and none of them occurs in a binding. -/
structure Independent (captures : Captures) : Prop where
  hasVariables : captures.HasVariables
  distinct : captures.Pairwise fun c d => c.1.symbol? ≠ d.1.symbol?
  apart : ∀ c ∈ captures, ∀ d ∈ captures, ∀ name, d.1.symbol? = some name → c.2.Names (· ≠ name)

namespace Independent

theorem perm (h : captures.Independent) (hperm : captures'.Perm captures) :
    captures'.Independent where
  hasVariables := h.hasVariables.of_subset hperm.subset
  distinct := (hperm.pairwise_iff Ne.symm).mpr h.distinct
  apart c hc d hd := h.apart c (hperm.subset hc) d (hperm.subset hd)

theorem of_sublist (h : captures.Independent) (hsublist : captures'.Sublist captures) :
    captures'.Independent where
  hasVariables := h.hasVariables.of_subset hsublist.subset
  distinct := h.distinct.sublist hsublist
  apart c hc d hd := h.apart c (hsublist.subset hc) d (hsublist.subset hd)

theorem of_cons (h : Independent (c :: captures)) : captures.Independent :=
  h.of_sublist (List.sublist_cons_self c captures)

/-- None of the variables is bound to itself, so it makes no difference which nodes are shared. -/
theorem instantiate_eq (h : captures.Independent) (template : Expr) (s : Sharing) :
    captures.instantiate template s = captures.instantiate template := by
  have hne : ∀ e, captures.binding? e ≠ some e := by
    intro e hbound
    obtain ⟨c, hc, hsame, rfl⟩ := exists_of_binding? hbound
    obtain ⟨name, hname, hvariable⟩ := h.hasVariables c hc
    have hsymbol := (same_variable_iff hvariable hname c.2).mp hsame
    obtain ⟨held, hvalue⟩ := symbol?_eq_some_iff.mp hsymbol
    have hfree := h.apart c hc c hc name hname
    rw [hvalue] at hfree
    exact names_symbol.mp hfree rfl
  rw [instantiate, instantiate, instantiate?_of_ne hne]

theorem instantiate_cons (h : Independent (c :: captures)) (template : Expr) :
    instantiate (c :: captures) template = captures.instantiate (instantiate [c] template) := by
  refine Captures.instantiate_cons h.hasVariables ?_ template
  refine h.of_cons.hasVariables.instantiate?_eq_none fun d hd => ?_
  exact h.apart c List.mem_cons_self d (List.mem_cons_of_mem c hd)

/-- An expression is bound to the same, in whichever order the pairs come. -/
theorem binding?_perm (h : captures.Independent) (hperm : captures.Perm captures') (e : Expr) :
    captures.binding? e = captures'.binding? e := by
  induction hperm with
  | nil => rfl
  | cons c _ ih => rw [binding?_cons, binding?_cons, ih h.of_cons]
  | swap c d captures =>
      simp only [binding?_cons]
      split
      next hd =>
        split
        next hc =>
          -- Only one of two different variables can be equal to the expression.
          obtain ⟨name, hname, hvariable⟩ := h.hasVariables d List.mem_cons_self
          obtain ⟨name', hname', hvariable'⟩ := h.hasVariables c (by simp)
          have hsymbol := (same_variable_iff hvariable hname e).mp hd
          have hsymbol' := (same_variable_iff hvariable' hname' e).mp hc
          refine absurd ?_ ((List.pairwise_cons.mp h.distinct).1 c List.mem_cons_self)
          rw [hname, hname', ← hsymbol, hsymbol']
        next => rfl
      next => rfl
  | trans h₁ _ ih₁ ih₂ => rw [ih₁ h, ih₂ (h.perm h₁.symm)]

/-- **Putting pairs in one at a time** comes to putting them in at once. -/
theorem foldl_instantiate (h : captures.Independent) (template : Expr) :
    captures.foldl (fun template c => instantiate [c] template) template =
      captures.instantiate template := by
  induction captures generalizing template with
  | nil =>
      have hnone : instantiate? [] template = none :=
        h.hasVariables.instantiate?_eq_none fun c hc => absurd hc List.not_mem_nil
      rw [List.foldl_nil, instantiate, hnone, Option.getD_none]
  | cons c captures ih => rw [List.foldl_cons, ih h.of_cons, h.instantiate_cons]

/-- So it is in any order, whichever nodes are shared. -/
theorem foldl_instantiate_perm (h : captures.Independent) (hperm : captures'.Perm captures)
    (sharing : Expr × Expr → Sharing) (template : Expr) (s : Sharing) :
    captures'.foldl (fun template c => instantiate [c] template (sharing c)) template =
      captures.instantiate template s := by
  have hsteps : captures'.foldl (fun template c => instantiate [c] template (sharing c)) template =
      captures'.foldl (fun template c => instantiate [c] template) template := by
    refine List.foldl_ext _ _ _ fun template c hc => ?_
    exact ((h.perm hperm).of_sublist (List.singleton_sublist.mpr hc)).instantiate_eq template _
  rw [hsteps, (h.perm hperm).foldl_instantiate, h.instantiate_eq, instantiate, instantiate,
    instantiate?_congr (h.binding?_perm hperm.symm)]

end Independent

end Captures

end Reduct
