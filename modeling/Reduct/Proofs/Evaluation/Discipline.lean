import Reduct.Proofs.Evaluation.Agreement
import Reduct.Proofs.Expr.Copies
import Reduct.Proofs.Scope.Kept

/-!
# What an evaluation keeps to

An invariant of evaluation says something about the names and the expressions that there are while
numbers are drawn. The expressions that an evaluation works on are not in its state, so an invariant
of the state alone goes through no sequence of computations. `EvalM.Gives` says with it what holds
of the result for the numbers that are drawn by then. What holds of an expression goes on to hold
while the counter goes up, so computations can be put together (`EvalM.Gives.bind`).

Such an invariant may also make it indifferent what a rewriting is told of shared nodes. So it is
stated for two runs, which are told otherwise in this way. They then give the same, and lead to
states that differ in nothing else that evaluation looks at (`Discipline.Relates`).

What goes through every evaluation in this sense is a `Discipline`.
-/

namespace Reduct

open Operation.Control (freshName localSymbols)

/-- Properties that evaluation keeps, each for the last number drawn. -/
structure Discipline where
  /-- What holds of the names that there are when `c` was the last number drawn. -/
  name (c : Nat) (name : String) : Prop
  /-- What holds of the expressions that there are then. -/
  expr (c : Nat) (e : Expr) : Prop
  /-- What holds of the renamings so far, the last first. -/
  renamings (c : Nat) (renamings : List Renaming) : Prop
  /-- It makes no difference to the rewriting of such expressions which of the two it is told. -/
  told (s s' : Sharing) : Prop
  kept (c : Nat) : Expr.Kept (name c) (expr c)
  name_mono {c c' : Nat} {x : String} : c ≤ c' → name c x → name c' x
  expr_mono {c c' : Nat} {e : Expr} : c ≤ c' → expr c e → expr c' e
  name_freshName (x : String) (c : Nat) : name c (freshName x c)
  renamings_nil : renamings 0 []
  renamings_cons {c : Nat} {scopes : Scopes} {locals : Expr} {body : List Expr}
    {names : List String} {others : List Renaming} : renamings c others →
    (∀ a ∈ locals :: body, expr c a) → scopes.Holds (name c) (expr c) →
    localSymbols "Module" locals = .ok names →
    renamings (c + 1) (⟨locals :: body, scopes, c + 1,
      .call "Seq" (body.map (Expr.replaceAll (Expr.copyRules names (c + 1))))⟩ :: others)
  instantiate_eq {c : Nat} {s s' : Sharing} {template : Expr} (captures : Captures) :
    told s s' → expr c template → captures.instantiate template s = captures.instantiate template s'
  replace_eq {c : Nat} {s s' : Sharing} {rules : List Rule} {e : Expr} : told s s' →
    (∀ rule ∈ rules, expr c rule.value) → expr c e → e.replace rules s = e.replace rules s'
  replaceAll_eq {c : Nat} {s s' : Sharing} {rules : List Rule} {e : Expr} : told s s' →
    (∀ rule ∈ rules, expr c rule.value) → expr c e → e.replaceAll rules s = e.replaceAll rules s'

variable {α β : Type} {D : Discipline} {c c' : Nat} {e : Expr}

namespace Discipline

/-- The properties hold of all the definitions. -/
abbrev scopes (D : Discipline) (c : Nat) : Scopes → Prop := Scopes.Holds (D.name c) (D.expr c)

theorem scopes_mono {s : Scopes} (hc : c ≤ c') (h : D.scopes c s) : D.scopes c' s :=
  Scopes.Holds.mono (fun _ => D.name_mono hc) (fun _ => D.expr_mono hc) h

theorem expr_all_mono {es : List Expr} (hc : c ≤ c') (h : ∀ e ∈ es, D.expr c e) :
    ∀ e ∈ es, D.expr c' e :=
  fun e he => D.expr_mono hc (h e he)

/-- The properties hold of the two states, and evaluation finds them different only in what it is
told, in a way that makes no difference. -/
structure Relates (D : Discipline) (m m' : Machine) : Prop where
  scopes_eq : m.scopes = m'.scopes
  depth_eq : m.depth = m'.depth
  lastFresh_eq : m.lastFresh = m'.lastFresh
  told : ∀ n, D.told (m.answers n) (m'.answers n)
  scopes : D.scopes m.lastFresh m.scopes
  renamings : D.renamings m.lastFresh m.renamings

/-! ### Rewriting -/

variable {s s' : Sharing} (htold : D.told s s')
include htold

theorem ruleResolve?_eq {rule : Rule} (h : D.expr c rule.value) (e : Expr) :
    rule.resolve? e s = rule.resolve? e s' :=
  Rule.resolve?_congr (fun captures => D.instantiate_eq captures htold h) e

theorem resolve?_eq {scopes : Scopes} (h : D.scopes c scopes) (e : Expr) :
    scopes.resolve? e s = scopes.resolve? e s' := by
  rw [Scopes.resolve?, Scopes.resolve?]
  split
  · rfl
  next name _ =>
    refine findSome?_congr fun version hversion => ?_
    refine findSome?_congr fun rule hrule => ?_
    exact ruleResolve?_eq htold ((h.chain name version hversion).rules rule hrule).value e

theorem applyFunction_eq {call : Expr} {parts args : List Expr}
    (hparts : ∀ part ∈ parts, D.expr c part) :
    call.applyFunction parts args s = call.applyFunction parts args s' := by
  match parts with
  | [params, body] =>
      simp only [Expr.applyFunction, D.instantiate_eq _ htold (hparts body (by simp))]
  | [] | [_] | _ :: _ :: _ :: _ => rfl

end Discipline

namespace EvalM

/-- From states that are related, in which numbers up to `c` at least were drawn, the computation
gives the same and leads to states that are related. What it gives satisfies `Q` for the numbers
that are drawn by then. -/
def Gives (D : Discipline) (c : Nat) (Q : Nat → α → Prop) (x : EvalM α) : Prop :=
  ∀ m m' : Machine, D.Relates m m' → c ≤ m.lastFresh →
    (x.run m).1 = (x.run m').1 ∧ D.Relates (x.run m).2 (x.run m').2 ∧
      m.lastFresh ≤ (x.run m).2.lastFresh ∧ Q (x.run m).2.lastFresh (x.run m).1

variable {Q : Nat → α → Prop} {R : Nat → β → Prop} {x : EvalM α} {f : α → EvalM β}

namespace Gives

theorem pure {a : α} (h : ∀ c', c ≤ c' → Q c' a) : Gives D c Q (Pure.pure a) :=
  fun m _ hm hc => ⟨rfl, hm, Nat.le_refl _, h m.lastFresh hc⟩

theorem bind (hx : x.Gives D c Q) (hf : ∀ c', c ≤ c' → ∀ a, Q c' a → (f a).Gives D c' R) :
    (x >>= f).Gives D c R := by
  intro m m' hm hc
  obtain ⟨hvalue, hm', hle, hQ⟩ := hx m m' hm hc
  obtain ⟨hvalue', hm'', hle', hR⟩ :=
    hf _ (Nat.le_trans hc hle) _ hQ _ _ hm' (Nat.le_refl _)
  rw [run_bind, run_bind, ← hvalue]
  exact ⟨hvalue', hm'', Nat.le_trans hle hle', hR⟩

theorem ite {p : Prop} [Decidable p] {y : EvalM α} (hx : x.Gives D c Q) (hy : y.Gives D c Q) :
    (if p then x else y).Gives D c Q := by
  split
  · exact hx
  · exact hy

theorem forM (f : β → EvalM Unit) (hf : ∀ b c, (f b).Gives D c fun _ _ => True) (items : List β) :
    (items.forM f).Gives D c fun _ _ => True := by
  induction items generalizing c with
  | nil => exact .pure fun _ _ => trivial
  | cons item items ih => exact .bind (hf item c) fun _ _ _ _ => ih

/-- Nothing changes that evaluation looks at or that the properties are about. -/
theorem of_same {a : α} (h : ∀ m, (x.run m).1 = a ∧ Machine.Agree (x.run m).2 m ∧
    (x.run m).2.renamings = m.renamings) (hQ : ∀ c', c ≤ c' → Q c' a) : x.Gives D c Q := by
  intro m m' hm hc
  obtain ⟨hvalue, hagree, hrenamings⟩ := h m
  obtain ⟨hvalue', hagree', -⟩ := h m'
  have hlast : (x.run m).2.lastFresh = m.lastFresh := hagree.lastFresh
  refine ⟨hvalue.trans hvalue'.symm, ⟨?_, ?_, ?_, ?_, ?_, ?_⟩, Nat.le_of_eq hlast.symm, ?_⟩
  · rw [hagree.scopes, hagree'.scopes, hm.scopes_eq]
  · rw [hagree.depth, hagree'.depth, hm.depth_eq]
  · rw [hagree.lastFresh, hagree'.lastFresh, hm.lastFresh_eq]
  · rw [hagree.answers, hagree'.answers]
    exact hm.told
  · rw [hlast, hagree.scopes]
    exact hm.scopes
  · rw [hlast, hrenamings]
    exact hm.renamings
  · rw [hlast, hvalue]
    exact hQ _ hc

theorem deeper (hx : x.Gives D c Q) : (EvalM.deeper x).Gives D c Q := by
  intro m m' hm hc
  obtain ⟨hvalue, hm', hle, hQ⟩ := hx m.descend m'.descend
    ⟨hm.scopes_eq, congrArg (· + 1) hm.depth_eq, hm.lastFresh_eq, hm.told, hm.scopes,
      hm.renamings⟩ hc
  exact ⟨hvalue, ⟨hm'.scopes_eq, congrArg (· - 1) hm'.depth_eq, hm'.lastFresh_eq, hm'.told,
    hm'.scopes, hm'.renamings⟩, hle, hQ⟩

end Gives

/-! ### The elementary computations -/

theorem gives_report (event : Event) : (report event).Gives D c fun _ _ => True := by
  refine .of_same (a := ()) (fun m => ?_) fun _ _ => trivial
  obtain ⟨events, h⟩ := run_report event m
  exact h ▸ ⟨rfl, ⟨rfl, rfl, rfl, rfl⟩, rfl⟩

theorem gives_recordStep (before after : Expr) :
    (recordStep before after).Gives D c fun _ _ => True := by
  refine .of_same (a := ()) (fun m => ?_) fun _ _ => trivial
  obtain ⟨steps, events, h⟩ := run_recordStep before after m
  exact h ▸ ⟨rfl, ⟨rfl, rfl, rfl, rfl⟩, rfl⟩

theorem gives_setTracing (on : Bool) : (setTracing on).Gives D c fun _ _ => True :=
  .of_same (fun _ => ⟨rfl, ⟨rfl, rfl, rfl, rfl⟩, rfl⟩) fun _ _ => trivial

theorem gives_cutShort (he : D.expr c e) (limit : Failure) :
    (cutShort e limit).Gives D c D.expr :=
  .of_same (fun _ => ⟨rfl, ⟨rfl, rfl, rfl, rfl⟩, rfl⟩) fun c' hc =>
    (D.kept c').abort (D.expr_mono hc he) _

theorem gives_scopes : scopes.Gives D c D.scopes :=
  fun _ _ hm _ => ⟨hm.scopes_eq, hm, Nat.le_refl _, hm.scopes⟩

/-- A rewriting that comes to the same whichever it is told. -/
theorem gives_rewriting {rewrite : Sharing → α} (counts : α → Bool)
    (heq : ∀ s s', D.told s s' → rewrite s = rewrite s')
    (hQ : ∀ s c', c ≤ c' → Q c' (rewrite s)) : (rewriting rewrite counts).Gives D c Q := by
  intro m m' hm hc
  have hvalue := heq _ _ (hm.told 0)
  rw [run_rewriting, run_rewriting, ← hvalue]
  refine ⟨rfl, ⟨hm.scopes_eq, hm.depth_eq, hm.lastFresh_eq, ?_, hm.scopes, hm.renamings⟩,
    Nat.le_refl _, hQ _ _ hc⟩
  rw [answers_add, answers_add]
  exact fun n => hm.told _

theorem gives_resolve? (he : D.expr c e) :
    (resolve? e).Gives D c fun c result => ∀ value ∈ result, D.expr c value := by
  refine .bind gives_scopes fun c' hc s hs =>
    gives_rewriting _ (fun _ _ htold => D.resolve?_eq htold hs e) fun sharing c'' hc' value h => ?_
  have hvalue : D.expr c' value :=
    hs.resolve? (D.kept c').toHereditary (D.expr_mono hc he) h
  exact D.expr_mono hc' hvalue

theorem gives_applyFunction {call : Expr} {parts args : List Expr} (hcall : D.expr c call)
    (hparts : ∀ part ∈ parts, D.expr c part) (hargs : ∀ a ∈ args, D.expr c a) :
    (applyFunction call parts args).Gives D c fun c r => D.expr c r.expr :=
  gives_rewriting _ (fun _ _ htold => D.applyFunction_eq htold hparts) fun s _ hc =>
    D.expr_mono hc ((D.kept c).applyFunction hcall hparts hargs s)

theorem gives_write {w : Scopes.Write} (hw : w.Holds (D.name c) (D.expr c)) :
    (write w).Gives D c fun _ _ => True := by
  intro m m' hm hc
  have hscopes := congrArg w.run hm.scopes_eq
  refine ⟨rfl, ⟨hscopes, hm.depth_eq, hm.lastFresh_eq, hm.told, ?_, hm.renamings⟩, Nat.le_refl _,
    trivial⟩
  exact Scopes.Holds.run (D.kept m.lastFresh)
    (hw.mono (fun _ => D.name_mono hc) fun _ => D.expr_mono hc) hm.scopes

theorem gives_setRule {rule : Rule} (h : rule.Holds (D.expr c)) :
    (setRule rule).Gives D c fun _ _ => True := by
  rw [setRule_eq]
  refine .bind gives_scopes fun c' hc s _ => ?_
  split
  · exact .pure fun _ _ => trivial
  · refine .bind (gives_report _) fun c'' hc' _ _ => .bind (gives_write ?_) fun _ _ _ _ =>
      .pure fun _ _ => trivial
    exact h.mono fun _ => D.expr_mono (Nat.le_trans hc hc')

theorem gives_clearRule {pattern : Expr} (h : D.expr c pattern) :
    (clearRule pattern).Gives D c fun _ _ => True := by
  rw [clearRule_eq]
  refine .bind gives_scopes fun c' hc s _ => ?_
  split
  · exact .pure fun _ _ => trivial
  · exact .bind (gives_write (D.expr_mono hc h)) fun _ _ _ _ => .pure fun _ _ => trivial

/-- A scope is opened with local symbols, and closed. -/
theorem gives_inScope {locals : List String} (hlocals : ∀ name ∈ locals, D.name c name)
    (hx : x.Gives D c Q) : (inScope locals x).Gives D c Q := by
  intro m m' hm hc
  obtain ⟨events, closed, hrun⟩ := run_inScope locals x m
  obtain ⟨events', closed', hrun'⟩ := run_inScope locals x m'
  have hlocals' : ∀ name ∈ locals, D.name m.lastFresh name :=
    fun name hname => D.name_mono hc (hlocals name hname)
  obtain ⟨hvalue, hm', hle, hQ⟩ := hx { m with scopes := m.scopes.push locals, events }
    { m' with scopes := m'.scopes.push locals, events := events' }
    ⟨congrArg (·.push locals) hm.scopes_eq, hm.depth_eq, hm.lastFresh_eq, hm.told,
      hm.scopes.push hlocals', hm.renamings⟩ hc
  rw [hrun, hrun']
  exact ⟨hvalue, ⟨congrArg (fun s => s.pop?.getD s) hm'.scopes_eq, hm'.depth_eq, hm'.lastFresh_eq,
    hm'.told, hm'.scopes.pop, hm'.renamings⟩, hle, hQ⟩

end EvalM

end Reduct
