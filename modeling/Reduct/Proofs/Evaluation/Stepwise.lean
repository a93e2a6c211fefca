import Reduct.Library
import Reduct.Proofs.Evaluation.Runs
import Reduct.Proofs.Evaluation.Trees

/-!
# What a step of evaluation is made of

A step calls for the evaluation of other expressions, and in between it does elementary things: it
reads the definitions, writes to them, rewrites, reports, draws a name, turns the record of steps on
or off, or does something in a scope of its own. `Consists` says that a computation is made up like this,
whatever evaluates the other expressions. The operations of the library are, and so are the steps
of an evaluator that has them, one (`Evaluator.silent_reduce`) and all that an expression takes
to settle (`Evaluator.stepwise_settle`). Settling records steps and stops at the limit; a step
itself does neither (`Silent`).

A property of all steps is then shown for the elementary computations alone: `Consists.keeps` is
about what a run does to the state, `Consists.respects` about two runs from related states.
-/

namespace Reduct

/-! ### Effects -/

namespace EvalM

variable {α β : Type}

/-- The computations that do one thing for a step, and open or close no scope. -/
inductive Effect : {α : Type} → EvalM α → Prop
  | scopes : Effect scopes
  | write (w : Scopes.Write) : Effect (write w)
  | report (event : Event) : Effect (report event)
  | drawFresh : Effect drawFresh
  | noteRenaming (args : List Expr) (number : Nat) (value : Expr) :
      Effect (noteRenaming args number value)
  | setTracing (on : Bool) : Effect (setTracing on)
  | rewriting {α : Type} (rewrite : Sharing → α) (counts : α → Bool) :
      Effect (rewriting rewrite counts)

/-- The computations that do one thing, and open or close no scope: those of a step, and what
settling does in between. -/
inductive Elementary : {α : Type} → EvalM α → Prop
  | scopes : Elementary scopes
  | write (w : Scopes.Write) : Elementary (write w)
  | report (event : Event) : Elementary (report event)
  | drawFresh : Elementary drawFresh
  | noteRenaming (args : List Expr) (number : Nat) (value : Expr) :
      Elementary (noteRenaming args number value)
  | setTracing (on : Bool) : Elementary (setTracing on)
  | rewriting {α : Type} (rewrite : Sharing → α) (counts : α → Bool) :
      Elementary (rewriting rewrite counts)
  | recordStep (before after : Expr) : Elementary (recordStep before after)
  | cutShort (e : Expr) (limit : Failure) : Elementary (cutShort e limit)

theorem Effect.elementary {x : EvalM α} (h : Effect x) : Elementary x := by
  cases h with
  | scopes => exact .scopes
  | write w => exact .write w
  | report event => exact .report event
  | drawFresh => exact .drawFresh
  | noteRenaming args number value => exact .noteRenaming args number value
  | setTracing on => exact .setTracing on
  | rewriting rewrite counts => exact .rewriting rewrite counts

end EvalM

/-! ### Computations that call for evaluations -/

open EvalM (Effect Elementary)

variable {α β : Type}

/-- A class of computations on the state. -/
abbrev EvalM.Class := ∀ {α : Type}, EvalM α → Prop

/-- The computation, given a way to evaluate, consists of evaluations and of computations of the
class `P`. -/
inductive Consists (P : EvalM.Class) : {α : Type} → ((Expr → EvalM Expr) → EvalM α) → Prop
  | pure {α : Type} (a : α) : Consists P fun _ => pure a
  | bind {α β : Type} {x : (Expr → EvalM Expr) → EvalM α}
      {f : α → (Expr → EvalM Expr) → EvalM β} :
      Consists P x → (∀ a, Consists P (f a)) →
        Consists P fun evaluate => x evaluate >>= fun a => f a evaluate
  | call (e : Expr) : Consists P fun evaluate => evaluate e
  | elementary {α : Type} {x : EvalM α} : P x → Consists P fun _ => x
  | inScope {α : Type} (locals : List String) {x : (Expr → EvalM Expr) → EvalM α} :
      Consists P x → Consists P fun evaluate => EvalM.inScope locals (x evaluate)

/-- The computation consists of evaluations and elementary computations. -/
abbrev Stepwise (x : (Expr → EvalM Expr) → EvalM α) : Prop := Consists Elementary x

/-- The computation consists of evaluations and effects: outside these evaluations it records no
steps and is stopped by no limit. -/
abbrev Silent (x : (Expr → EvalM Expr) → EvalM α) : Prop := Consists Effect x

namespace Consists

variable {P : EvalM.Class}

theorem ite {c : Prop} [Decidable c] {x y : (Expr → EvalM Expr) → EvalM α}
    (hx : Consists P x) (hy : Consists P y) :
    Consists P fun evaluate => if c then x evaluate else y evaluate := by
  by_cases hc : c
  · simpa only [if_pos hc]
  · simpa only [if_neg hc]

theorem forM (f : β → EvalM Unit) (hf : ∀ b, P (f b)) (items : List β) :
    Consists P fun _ => items.forM f := by
  induction items with
  | nil => exact .pure ()
  | cons item items ih => exact .bind (.elementary (hf item)) fun _ => ih

end Consists

namespace Silent

theorem stepwise {x : (Expr → EvalM Expr) → EvalM α} (hx : Silent x) : Stepwise x := by
  induction hx with
  | pure a => exact .pure a
  | bind _ _ ihx ihf => exact .bind ihx ihf
  | call e => exact .call e
  | elementary hx => exact .elementary hx.elementary
  | inScope locals _ ih => exact .inScope locals ih

theorem setRule (rule : Rule) : Silent fun _ => EvalM.setRule rule := by
  rw [EvalM.setRule_eq]
  refine .bind (.elementary .scopes) fun s => ?_
  cases s.setRule? rule with
  | none => exact .pure _
  | some s =>
      exact .bind (.elementary (.report _)) fun _ =>
        .bind (.elementary (.write _)) fun _ => .pure _

theorem clearRule (pattern : Expr) : Silent fun _ => EvalM.clearRule pattern := by
  rw [EvalM.clearRule_eq]
  refine .bind (.elementary .scopes) fun s => ?_
  cases s.clearRule? pattern with
  | none => exact .pure _
  | some found => exact .bind (.elementary (.write _)) fun _ => .pure _

theorem resolve? (e : Expr) : Silent fun _ => EvalM.resolve? e :=
  .bind (.elementary .scopes) fun _ => .elementary (.rewriting _ _)

theorem applyFunction (call : Expr) (parts args : List Expr) :
    Silent fun _ => EvalM.applyFunction call parts args :=
  .elementary (.rewriting _ _)

end Silent

/-! ### What holds of every step -/

/-- The computation leads from every state to one related to it. -/
def EvalM.Keeps (G : Machine → Machine → Prop) (x : EvalM α) : Prop := ∀ m, G m (x.run m).2

/-- From related states the computations give the same result, and related states. -/
def EvalM.Respects (R : Machine → Machine → Prop) (x y : EvalM α) : Prop :=
  ∀ m m', R m m' → (x.run m).1 = (y.run m').1 ∧ R (x.run m).2 (y.run m').2

/-- A relation of states before and after that computations made up of evaluations and of `P` keep
if the evaluations in them do. -/
structure FrameOf (P : EvalM.Class) (G : Machine → Machine → Prop) : Prop where
  refl (m : Machine) : G m m
  trans {m m' m'' : Machine} : G m m' → G m' m'' → G m m''
  elementary {α : Type} {x : EvalM α} : P x → x.Keeps G
  inScope {α : Type} (locals : List String) {x : EvalM α} :
    x.Keeps G → (EvalM.inScope locals x).Keeps G

/-- A relation of states before and after that steps keep if the evaluations in them do. -/
abbrev Frame (G : Machine → Machine → Prop) : Prop := FrameOf Elementary G

/-- A relation of the states of two runs that steps keep if the evaluations in them do. -/
structure Coupling (R : Machine → Machine → Prop) : Prop where
  elementary {α : Type} {x : EvalM α} : Elementary x → x.Respects R x
  openScope (locals : List String) : (EvalM.openScope locals).Respects R (EvalM.openScope locals)
  closeScope : EvalM.closeScope.Respects R EvalM.closeScope

namespace EvalM

variable {P : Class} {G R : Machine → Machine → Prop}

theorem Keeps.bind (hG : FrameOf P G) {x : EvalM α} {f : α → EvalM β} (hx : x.Keeps G)
    (hf : ∀ a, (f a).Keeps G) : (x >>= f).Keeps G :=
  fun m => hG.trans (hx m) (hf _ _)

theorem Respects.bind {x y : EvalM α} {f g : α → EvalM β} (hx : x.Respects R y)
    (hf : ∀ a, (f a).Respects R (g a)) : (x >>= f).Respects R (y >>= g) := by
  intro m m' hm
  obtain ⟨hvalue, hm⟩ := hx m m' hm
  rw [run_bind, run_bind, hvalue]
  exact hf _ _ _ hm

theorem Respects.pure (a : α) : (Pure.pure a : EvalM α).Respects R (Pure.pure a) :=
  fun _ _ hm => ⟨rfl, hm⟩

end EvalM

namespace Consists

variable {P : EvalM.Class} {G R : Machine → Machine → Prop}
  {evaluate evaluate' : Expr → EvalM Expr} {x : (Expr → EvalM Expr) → EvalM α}

theorem keeps (hG : FrameOf P G) (hcall : ∀ e, (evaluate e).Keeps G) (hx : Consists P x) :
    (x evaluate).Keeps G := by
  induction hx with
  | pure a => exact hG.refl
  | bind _ _ ihx ihf => exact ihx.bind hG ihf
  | call e => exact hcall e
  | elementary hx => exact hG.elementary hx
  | inScope locals _ ih => exact hG.inScope locals ih

theorem respects (hR : Coupling R) (hcall : ∀ e, (evaluate e).Respects R (evaluate' e))
    (hx : Stepwise x) : (x evaluate).Respects R (x evaluate') := by
  induction hx with
  | pure a => exact .pure a
  | bind _ _ ihx ihf => exact ihx.bind ihf
  | call e => exact hcall e
  | elementary hx => exact hR.elementary hx
  | inScope locals _ ih =>
      exact (hR.openScope locals).bind fun _ => ih.bind fun _ => hR.closeScope.bind fun _ => .pure _

end Consists

/-! ### The operations of the library -/

/-- The operation is made up of evaluations and effects. -/
def Operation.IsSilent (operation : Operation) : Prop :=
  ∀ args, Silent fun evaluate => operation.run evaluate args

namespace Operation

@[simp] theorem isSilent_ofFunction (minArgs : Nat) (f : List Expr → Except Failure Expr) :
    (ofFunction minArgs f).IsSilent :=
  fun args => .pure (f args)

@[simp] theorem isSilent_ofRewriting (minArgs : Nat)
    (f : Sharing → List Expr → Except Failure Expr) : (ofRewriting minArgs f).IsSilent :=
  fun args => .elementary (.rewriting (f · args) fun _ => true)

namespace Definition

theorem silent_assign (args : List Expr) : Silent fun _ => assign args := by
  unfold assign
  split
  · refine .bind (Silent.setRule _) fun result => ?_
    cases result <;> exact .pure _
  · exact .pure _

theorem silent_delay (args : List Expr) : Silent fun _ => delay args := by
  unfold delay
  split
  · exact .bind (Silent.setRule _) fun _ => .pure _
  · exact .pure _

theorem silent_clear (args : List Expr) : Silent fun _ => clear args := by
  unfold clear
  split
  · exact .bind (Silent.clearRule _) fun _ => .pure _
  · exact .pure _

theorem silent_setAttributes (args : List Expr) : Silent fun _ => setAttributes args := by
  unfold setAttributes
  split
  · exact .bind (.elementary (.write (.setAttributes _ _))) fun _ => .pure _
  · exact .pure _
  · exact .pure _

theorem silent_getAttributes (args : List Expr) : Silent fun _ => getAttributes args := by
  unfold getAttributes
  split
  · exact .bind (.elementary .scopes) fun _ => .pure _
  · exact .pure _
  · exact .pure _

theorem silent_clearAttributes (args : List Expr) : Silent fun _ => clearAttributes args := by
  unfold clearAttributes
  split
  · exact .bind (.elementary (.write (.clearAttributes _ _))) fun _ => .pure _
  · exact .pure _
  · exact .pure _

theorem silent_describe (args : List Expr) : Silent fun _ => describe args := by
  unfold describe
  split
  · refine .bind (.elementary .scopes) fun s => ?_
    split <;> exact .pure _
  · exact .pure _
  · exact .pure _

theorem isSilent : ∀ entry ∈ operations, entry.2.IsSilent := by
  intro entry h
  simp only [operations, List.mem_cons, List.not_mem_nil, or_false] at h
  rcases h with rfl | rfl | rfl | rfl | rfl | rfl | rfl
  · exact silent_assign
  · exact silent_delay
  · exact silent_clear
  · exact silent_setAttributes
  · exact silent_getAttributes
  · exact silent_clearAttributes
  · exact silent_describe

end Definition

namespace Control

theorem silent_sequence (last : Expr) (es : List Expr) :
    Silent fun evaluate => sequence evaluate last es := by
  induction es generalizing last with
  | nil => exact .pure last
  | cons e es ih => exact .bind (.call e) fun value => .ite (.pure _) (ih value)

theorem stepwise_sequence (last : Expr) (es : List Expr) :
    Stepwise fun evaluate => sequence evaluate last es :=
  (silent_sequence last es).stepwise

theorem silent_block (args : List Expr) : Silent fun evaluate => block evaluate args := by
  cases args with
  | nil => exact .pure _
  | cons locals body =>
      simp only [block]
      cases localSymbols "Block" locals with
      | error failure => exact .pure _
      | ok names => exact .bind (.inScope names (silent_sequence .null body)) fun _ => .pure _

theorem silent_localize (args : List Expr) : Silent fun _ => localize args := by
  unfold localize
  split
  · split
    · exact .pure _
    · exact .bind (.elementary .drawFresh) fun _ =>
        .bind (.elementary (.noteRenaming _ _ _)) fun _ => .pure _
  · exact .pure _

theorem silent_log (args : List Expr) : Silent fun _ => log args := by
  unfold log
  split
  · split
    · exact .bind (.elementary (.setTracing _)) fun _ => .pure _
    · exact .pure _
  · exact .pure _

theorem isSilent : ∀ entry ∈ operations, entry.2.IsSilent := by
  intro entry h
  simp only [operations, List.mem_cons, List.not_mem_nil, or_false] at h
  rcases h with rfl | rfl | rfl | rfl
  · exact fun body => .bind (silent_sequence .null body) fun _ => .pure _
  · exact silent_block
  · exact silent_localize
  · exact silent_log

end Control

namespace Output

theorem isSilent : ∀ entry ∈ operations, entry.2.IsSilent := by
  intro entry h
  simp only [operations, List.mem_cons, List.not_mem_nil, or_false] at h
  rcases h with rfl | rfl
  · intro args
    cases args with
    | nil => exact .pure _
    | cons e es => exact .bind (.elementary (.report _)) fun _ => .pure _
  · exact fun args => .bind (.forM _ (fun _ => .report _) args) fun _ => .pure _

end Output

end Operation

namespace Operations

/-- What holds of all operations of the library holds of those an evaluator has. -/
theorem forall_of_get? {P : Operation → Prop}
    (definition : ∀ entry ∈ Operation.Definition.operations, P entry.2)
    (control : ∀ entry ∈ Operation.Control.operations, P entry.2)
    (form : ∀ entry ∈ Operation.Form.operations, P entry.2)
    (arithmetic : ∀ entry ∈ Operation.Arithmetic.operations, P entry.2)
    (logic : ∀ entry ∈ Operation.Logic.operations, P entry.2)
    (parts : ∀ entry ∈ Operation.Parts.operations, P entry.2)
    (strings : ∀ entry ∈ Operation.Strings.operations, P entry.2)
    (search : ∀ entry ∈ Operation.Search.operations, P entry.2)
    (output : ∀ entry ∈ Operation.Output.operations, P entry.2)
    {groups : List Group} {name : String} {operation : Operation}
    (h : (ofGroups groups).get? name = some operation) : P operation := by
  obtain hcore | hgroup := List.mem_append.mp (Table.mem_of_get?_ofList h)
  · rw [core, List.mem_append, List.mem_append] at hcore
    obtain (hcore | hcore) | hcore := hcore
    · exact definition _ hcore
    · exact control _ hcore
    · exact form _ hcore
  · obtain ⟨group, -, hentry⟩ := List.mem_flatMap.mp hgroup
    cases group with
    | math => exact arithmetic _ hentry
    | logic => exact logic _ hentry
    | list => exact parts _ hentry
    | string => exact (List.mem_append.mp hentry).elim (strings _) (search _)
    | io => exact output _ hentry

/-- The operations of the library record no steps of their own. -/
theorem isSilent (groups : List Group) {name : String} {operation : Operation}
    (h : (ofGroups groups).get? name = some operation) : operation.IsSilent := by
  -- Those that only compute with their arguments do so by their form.
  refine forall_of_get? Operation.Definition.isSilent Operation.Control.isSilent
    ?_ ?_ ?_ ?_ ?_ ?_ Operation.Output.isSilent h
  · simp [Operation.Form.operations]
  · simp [Operation.Arithmetic.operations]
  · simp [Operation.Logic.operations]
  · simp [Operation.Parts.operations]
  · simp [Operation.Strings.operations]
  · simp [Operation.Search.operations]

end Operations

/-! ### A step -/

namespace Evaluator

theorem silent_evaluateArgs (attributes : Attributes) (index : Nat) (es : List Expr) :
    Silent fun evaluate => evaluateArgs evaluate attributes index es := by
  induction es generalizing index with
  | nil => exact .pure _
  | cons e es ih =>
      simp only [evaluateArgs_cons]
      refine .ite (.bind (.call e) fun value => .ite (.pure _) ?_) ?_
      · refine .bind (ih (index + 1)) fun values => ?_
        cases values <;> exact .pure _
      · refine .bind (ih (index + 1)) fun values => ?_
        cases values <;> exact .pure _

variable {ev : Evaluator}

/-- Every operation of the evaluator is made up of evaluations and effects. -/
def IsStepwise (ev : Evaluator) : Prop :=
  ∀ name operation, ev.operations.get? name = some operation → operation.IsSilent

theorem isStepwise_ofGroups (limits : Limits) (groups : List Group) :
    (⟨limits, .ofGroups groups⟩ : Evaluator).IsStepwise := by
  intro name operation h
  dsimp only at h
  exact Operations.isSilent groups h

theorem silent_dispatch (hev : ev.IsStepwise) (call : Expr) (name : String) :
    Silent fun evaluate => ev.dispatch evaluate call name := by
  simp only [dispatch]
  cases h : ev.operations.get? name with
  | none => exact .pure none
  | some operation =>
      refine .ite (.pure _) (.bind (hev name operation h call.args) fun result => ?_)
      cases result <;> exact .pure _

theorem silent_reduceCall (hev : ev.IsStepwise) (attributes : Attributes) (head : Expr)
    (args : List Expr) : Silent fun evaluate => ev.reduceCall evaluate attributes head args := by
  simp only [reduceCall_eq]
  refine .ite (.pure _) (.bind (Silent.resolve? _) fun value? => ?_)
  cases value? with
  | some value => exact .pure _
  | none =>
      refine .ite (Silent.applyFunction _ _ _) ?_
      cases head.symbol? with
      | none => exact .pure _
      | some name => exact .bind (silent_dispatch hev _ name) fun _ => .pure _

section Run

variable {evaluate : Expr → EvalM Expr} {head v : Expr} {args : List Expr} {held : Bool}
  {m m₁ m₂ : Machine}

/-- A step with an application whose head fails gives this failure. -/
theorem reduce_run_of_head (hhead : (evaluate head).run m = (v, m₁)) (hfailed : v.isAbort) :
    (ev.reduce evaluate (.apply head args held)).run m = (.plain v, m₁) := by
  rw [reduce_apply, EvalM.run_bind, hhead, reduceApplied, if_pos hfailed]
  rfl

/-- One whose head does not fail gives the first failure among the arguments. -/
theorem reduce_run_of_error (hhead : (evaluate head).run m = (v, m₁)) (hok : v.isAbort = false)
    {failed : Expr}
    (hargs : (evaluateArgs evaluate (attributesOf m₁.scopes v) 0 args).run m₁ =
      (.error failed, m₂)) :
    (ev.reduce evaluate (.apply head args held)).run m = (.plain failed, m₂) := by
  rw [reduce_apply, EvalM.run_bind, hhead, reduceApplied, if_neg (by simp [hok]), EvalM.run_bind,
    EvalM.run_scopes, EvalM.run_bind]
  dsimp only
  rw [hargs]
  rfl

end Run

theorem silent_reduceApplied (hev : ev.IsStepwise) (args : List Expr) (head : Expr) :
    Silent fun evaluate => ev.reduceApplied evaluate args head := by
  simp only [reduceApplied]
  refine .ite (.pure _) (.bind (.elementary .scopes) fun s => ?_)
  refine .bind (silent_evaluateArgs _ 0 args) fun values => ?_
  cases values with
  | error failed => exact .pure _
  | ok args => exact silent_reduceCall hev _ head _

/-- **A step is made up of evaluations and effects.** -/
theorem silent_reduce (hev : ev.IsStepwise) (e : Expr) :
    Silent fun evaluate => ev.reduce evaluate e := by
  cases e with
  | number value | string text => exact .pure _
  | symbol name held =>
      simp only [reduce_symbol]
      refine .bind (Silent.resolve? _) fun value? => ?_
      cases value? <;> exact .pure _
  | apply head args held =>
      simp only [reduce_apply]
      exact .bind (.call head) (silent_reduceApplied hev args)

theorem stepwise_dispatch (hev : ev.IsStepwise) (call : Expr) (name : String) :
    Stepwise fun evaluate => ev.dispatch evaluate call name :=
  (silent_dispatch hev call name).stepwise

theorem stepwise_reduce (hev : ev.IsStepwise) (e : Expr) :
    Stepwise fun evaluate => ev.reduce evaluate e :=
  (silent_reduce hev e).stepwise

theorem stepwise_advance (hev : ev.IsStepwise) (input e : Expr) :
    Stepwise fun evaluate => advance (ev.reduce evaluate) input e := by
  simp only [advance_eq]
  exact .bind (stepwise_reduce hev e) fun _ =>
    .ite (.bind (.elementary (.recordStep _ _)) fun _ => .pure _) (.pure _)

/-- All the steps an expression takes to settle are made up like this. -/
theorem stepwise_settle (hev : ev.IsStepwise) (input : Expr) (remaining : Nat) (e : Expr) :
    Stepwise fun evaluate => settle (ev.reduce evaluate) input remaining e := by
  induction remaining generalizing e with
  | zero =>
      simp only [settle_zero]
      exact .bind (stepwise_advance hev input e) fun _ =>
        .ite (.elementary (.cutShort _ _)) (.pure _)
  | succ remaining ih =>
      simp only [settle_succ]
      exact .bind (stepwise_advance hev input e) fun r => .ite (ih r.expr) (.pure _)

/-! ### A whole evaluation -/

section Levels

variable {G : Machine → Machine → Prop} (hG : Frame G)
  (hdeeper : ∀ {m m'}, G m.descend m' → G m m'.ascend)
include hG hdeeper

theorem keeps_evaluateWithin (hev : ev.IsStepwise) (levels : Nat) (e : Expr) :
    (ev.evaluateWithin levels e).Keeps G := by
  induction levels generalizing e with
  | zero =>
      rw [evaluateWithin_zero]
      split
      · exact hG.refl
      · exact hG.elementary (.cutShort e _)
  | succ levels ih =>
      rw [evaluateWithin_succ]
      split
      · exact hG.refl
      · exact fun m =>
          hdeeper ((stepwise_settle hev e ev.limits.iterations e).keeps hG ih m.descend)

/-- **What steps keep, an evaluation keeps,** if it is kept when a level is entered and left. -/
theorem keeps_evaluate (hev : ev.IsStepwise) (e : Expr) : (ev.evaluate e).Keeps G :=
  fun m => keeps_evaluateWithin hG hdeeper hev (ev.limits.recursion - m.depth) e m

end Levels

section Runs

variable {R : Machine → Machine → Prop} (hR : Coupling R)
  (hdescend : ∀ {m m'}, R m m' → R m.descend m'.descend)
  (hascend : ∀ {m m'}, R m m' → R m.ascend m'.ascend)
include hR hdescend hascend

theorem respects_evaluateWithin (hev : ev.IsStepwise) (levels : Nat) (e : Expr) :
    (ev.evaluateWithin levels e).Respects R (ev.evaluateWithin levels e) := by
  induction levels generalizing e with
  | zero =>
      rw [evaluateWithin_zero]
      split
      · exact .pure e
      · exact hR.elementary (.cutShort e _)
  | succ levels ih =>
      rw [evaluateWithin_succ]
      split
      · exact .pure e
      · intro m m' h
        obtain ⟨hvalue, hstate⟩ := (stepwise_settle hev e ev.limits.iterations e).respects hR ih
          m.descend m'.descend (hdescend h)
        exact ⟨hvalue, hascend hstate⟩

/-- **What the steps of two runs respect, two evaluations respect,** if it is kept when both enter
or leave a level, and puts them at the same depth. -/
theorem respects_evaluate_of_coupling (hdepth : ∀ {m m'}, R m m' → m.depth = m'.depth)
    (hev : ev.IsStepwise) (e : Expr) : (ev.evaluate e).Respects R (ev.evaluate e) := by
  intro m m' h
  have hwithin := respects_evaluateWithin hR hdescend hascend hev (ev.limits.recursion - m.depth) e
  have hrun : (ev.evaluate e).run m' =
      (ev.evaluateWithin (ev.limits.recursion - m.depth) e).run m' := by
    rw [hdepth h]
    rfl
  rw [hrun]
  exact hwithin m m' h

end Runs

end Evaluator

end Reduct
