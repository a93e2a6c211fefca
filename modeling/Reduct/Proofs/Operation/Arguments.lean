import Reduct.Proofs.Evaluation.Stepwise

/-!
# Arguments that are there

An operation reads its arguments by place and has no answer where there are fewer than it reads.
The least number it is registered with is enough for all it reads (`Operations.isCovered`): given so
many arguments or more, whatever they are, no operation of the library finds one missing. An
operation fails in other ways, and evaluations in it may end in any way; what an evaluation gives is
an expression and no failure of the operation that asked for it.
-/

namespace Reduct

variable {α β : Type}

/-! ### Results of computations -/

/-- The result of the computation has a property, whatever the state. -/
def EvalM.Yields (P : α → Prop) (x : EvalM α) : Prop := ∀ m, P (x.run m).1

/-- The result is not that an argument is missing. -/
def HasArguments (result : Except Failure α) : Prop := result ≠ .error .insufficientArguments

theorem hasArguments_ok {a : α} : HasArguments (.ok a) := nofun

theorem hasArguments_error {failure : Failure} (h : failure ≠ .insufficientArguments) :
    HasArguments (.error failure : Except Failure α) :=
  fun heq => h (Except.error.inj heq)

/-- A failure stands for the same in the result of another kind. -/
theorem HasArguments.failed {failure : Failure}
    (h : HasArguments (.error failure : Except Failure α)) :
    HasArguments (.error failure : Except Failure β) :=
  hasArguments_error fun heq => h (congrArg Except.error heq)

theorem HasArguments.map {result : Except Failure α} (h : HasArguments result) (f : α → β) :
    HasArguments (result.map f) := by
  cases result with
  | ok a => exact hasArguments_ok
  | error failure => exact h.failed

namespace EvalM

variable {P : α → Prop} {Q : β → Prop} {x : EvalM α} {f : α → EvalM β}

theorem Yields.pure {a : α} (h : P a) : (Pure.pure a : EvalM α).Yields P := fun _ => h

theorem Yields.bind (hx : x.Yields P) (hf : ∀ a, P a → (f a).Yields Q) : (x >>= f).Yields Q :=
  fun m => hf _ (hx m) _

/-- What comes first does not matter if what follows has the property anyway. -/
theorem Yields.of_bind (hf : ∀ a, (f a).Yields Q) : (x >>= f).Yields Q := fun _ => hf _ _

theorem yields_setRule (rule : Rule) : (setRule rule).Yields HasArguments := by
  rw [setRule_eq]
  refine .of_bind fun s => ?_
  cases s.setRule? rule with
  | none => exact .pure (hasArguments_error (by simp))
  | some s => exact .of_bind fun _ => .of_bind fun _ => .pure hasArguments_ok

theorem yields_clearRule (pattern : Expr) : (clearRule pattern).Yields HasArguments := by
  rw [clearRule_eq]
  refine .of_bind fun s => ?_
  cases s.clearRule? pattern with
  | none => exact .pure (hasArguments_error (by simp))
  | some found => exact .of_bind fun _ => .pure hasArguments_ok

end EvalM

/-! ### The operations of the library -/

section Lengths

variable {P : List Expr → Prop}

theorem forall_of_one {n : Nat} (h : ∀ a others, P (a :: others)) :
    ∀ args : List Expr, n + 1 ≤ args.length → P args
  | a :: others, _ => h a others

theorem forall_of_two {n : Nat} (h : ∀ a b others, P (a :: b :: others)) :
    ∀ args : List Expr, n + 2 ≤ args.length → P args
  | a :: b :: others, _ => h a b others

theorem forall_of_three {n : Nat} (h : ∀ a b c others, P (a :: b :: c :: others)) :
    ∀ args : List Expr, n + 3 ≤ args.length → P args
  | a :: b :: c :: others, _ => h a b c others

end Lengths

/-- No argument is missing when there are as many as the operation takes at least. -/
def Operation.IsCovered (operation : Operation) : Prop :=
  ∀ (evaluate : Expr → EvalM Expr) (args : List Expr), operation.minArgs ≤ args.length →
    (operation.run evaluate args).Yields HasArguments

namespace Operation

theorem isCovered_ofFunction {minArgs : Nat} {f : List Expr → Except Failure Expr}
    (hf : ∀ args, minArgs ≤ args.length → HasArguments (f args)) :
    (ofFunction minArgs f).IsCovered :=
  fun _ args hargs => .pure (hf args hargs)

theorem isCovered_ofRewriting {minArgs : Nat} {f : Sharing → List Expr → Except Failure Expr}
    (hf : ∀ s args, minArgs ≤ args.length → HasArguments (f s args)) :
    (ofRewriting minArgs f).IsCovered := by
  intro _ args hargs m
  change HasArguments ((EvalM.rewriting (f · args) fun _ => true).run m).1
  rw [EvalM.run_rewriting]
  exact hf _ args hargs

theorem isCovered_ofEffect {minArgs : Nat} {f : List Expr → EvalM (Except Failure Expr)}
    (hf : ∀ args, minArgs ≤ args.length → (f args).Yields HasArguments) :
    (ofEffect minArgs f).IsCovered :=
  fun _ => hf

namespace Definition

theorem hasArguments_done {result : Except Failure α} (h : HasArguments result) :
    HasArguments (done result) := by
  cases result with
  | ok a => exact hasArguments_ok
  | error failure => exact h.failed

theorem yields_assign (pattern value : Expr) (others : List Expr) :
    (assign (pattern :: value :: others)).Yields HasArguments := by
  refine .bind (EvalM.yields_setRule ⟨pattern, value⟩) fun result hresult => ?_
  cases result with
  | ok _ => exact .pure hasArguments_ok
  | error failure => exact .pure hresult.failed

theorem yields_delay (pattern value : Expr) (others : List Expr) :
    (delay (pattern :: value :: others)).Yields HasArguments :=
  .bind (EvalM.yields_setRule ⟨pattern, value⟩) fun _ hresult => .pure (hasArguments_done hresult)

theorem yields_clear (pattern : Expr) (others : List Expr) :
    (clear (pattern :: others)).Yields HasArguments :=
  .bind (EvalM.yields_clearRule pattern) fun _ hresult => .pure (hasArguments_done hresult)

theorem yields_setAttributes (e : Expr) (others : List Expr) :
    (setAttributes (e :: others)).Yields HasArguments := by
  cases e with
  | symbol _ _ => exact .of_bind fun _ => .pure hasArguments_ok
  | apply _ _ _ | number _ | string _ => exact .pure (hasArguments_error (by simp))

theorem yields_getAttributes (e : Expr) (others : List Expr) :
    (getAttributes (e :: others)).Yields HasArguments := by
  cases e with
  | symbol _ _ => exact .of_bind fun _ => .pure hasArguments_ok
  | apply _ _ _ | number _ | string _ => exact .pure (hasArguments_error (by simp))

theorem yields_clearAttributes (e : Expr) (others : List Expr) :
    (clearAttributes (e :: others)).Yields HasArguments := by
  cases e with
  | symbol _ _ => exact .of_bind fun _ => .pure hasArguments_ok
  | apply _ _ _ | number _ | string _ => exact .pure (hasArguments_error (by simp))

theorem yields_describe (e : Expr) (others : List Expr) :
    (describe (e :: others)).Yields HasArguments := by
  cases e with
  | symbol name _ =>
      refine .of_bind fun s => ?_
      cases s.chain name <;> exact .pure hasArguments_ok
  | apply _ _ _ | number _ | string _ => exact .pure (hasArguments_error (by simp))

theorem isCovered : ∀ entry ∈ operations, entry.2.IsCovered := by
  intro entry h
  simp only [operations, List.mem_cons, List.not_mem_nil, or_false] at h
  rcases h with rfl | rfl | rfl | rfl | rfl | rfl | rfl <;> refine isCovered_ofEffect ?_
  · exact forall_of_two yields_assign
  · exact forall_of_two yields_delay
  · exact forall_of_one yields_clear
  · exact forall_of_one yields_setAttributes
  · exact forall_of_one yields_getAttributes
  · exact forall_of_one yields_clearAttributes
  · exact forall_of_one yields_describe

end Definition

namespace Control

theorem yields_block (evaluate : Expr → EvalM Expr) (locals : Expr) (body : List Expr) :
    (block evaluate (locals :: body)).Yields HasArguments := by
  cases locals with
  | apply _ _ _ => exact .of_bind fun _ => .pure hasArguments_ok
  | symbol _ _ | number _ | string _ => exact .pure (hasArguments_error (by simp))

theorem yields_localize (locals : Expr) (body : List Expr) :
    (localize (locals :: body)).Yields HasArguments := by
  cases locals with
  | apply _ _ _ => exact .of_bind fun _ => .of_bind fun _ => .pure hasArguments_ok
  | symbol _ _ | number _ | string _ => exact .pure (hasArguments_error (by simp))

theorem yields_log (switch : Expr) (others : List Expr) :
    (log (switch :: others)).Yields HasArguments := by
  rw [log]
  cases switch.bool? with
  | some on => exact .of_bind fun _ => .pure hasArguments_ok
  | none => exact .pure (hasArguments_error (by simp))

theorem isCovered : ∀ entry ∈ operations, entry.2.IsCovered := by
  intro entry h
  simp only [operations, List.mem_cons, List.not_mem_nil, or_false] at h
  rcases h with rfl | rfl | rfl | rfl
  · exact fun evaluate body _ => .of_bind fun _ => .pure hasArguments_ok
  · exact fun evaluate => forall_of_one (yields_block evaluate)
  · exact isCovered_ofEffect (forall_of_one yields_localize)
  · exact isCovered_ofEffect (forall_of_one yields_log)

end Control

namespace Output

theorem isCovered : ∀ entry ∈ operations, entry.2.IsCovered := by
  intro entry h
  simp only [operations, List.mem_cons, List.not_mem_nil, or_false] at h
  rcases h with rfl | rfl <;> refine isCovered_ofEffect ?_
  · exact forall_of_one fun e others => .of_bind fun _ => .pure hasArguments_ok
  · exact fun args _ => .of_bind fun _ => .pure hasArguments_ok

end Output

namespace Form

theorem hasArguments_rules (form : String) (entries : Expr) :
    HasArguments (rules form entries) := by
  cases entries with
  | apply _ _ _ => exact hasArguments_ok
  | symbol _ _ | number _ | string _ => exact hasArguments_error (by simp)

theorem isCovered : ∀ entry ∈ operations, entry.2.IsCovered := by
  intro entry h
  simp only [operations, List.mem_cons, List.not_mem_nil, or_false] at h
  rcases h with rfl | rfl | rfl | rfl
  · exact isCovered_ofFunction (forall_of_one fun e others => hasArguments_ok)
  · exact isCovered_ofFunction (forall_of_one fun e others => hasArguments_ok)
  · exact isCovered_ofRewriting fun s =>
      forall_of_two fun e entries others => (hasArguments_rules "Replace" entries).map _
  · exact isCovered_ofRewriting fun s =>
      forall_of_two fun e entries others => (hasArguments_rules "ReplaceAll" entries).map _

end Form

namespace Arithmetic

theorem isCovered : ∀ entry ∈ operations, entry.2.IsCovered := by
  intro entry h
  simp only [operations, List.mem_cons, List.not_mem_nil, or_false] at h
  rcases h with rfl | rfl | rfl | rfl | rfl | rfl <;> refine isCovered_ofFunction ?_
  · exact fun args _ => hasArguments_ok
  · exact fun args _ => hasArguments_ok
  · exact forall_of_one fun first others => hasArguments_ok
  · exact forall_of_one fun first others => hasArguments_ok
  · refine forall_of_one fun first others => ?_
    cases first <;> exact hasArguments_ok
  · intro args _
    unfold power
    split <;> exact hasArguments_ok

end Arithmetic

namespace Logic

theorem isCovered : ∀ entry ∈ operations, entry.2.IsCovered := by
  have hdeciding (name : String) (decide? : Expr → Expr → Option Bool) :
      (ofFunction 2 (deciding name decide?)).IsCovered := by
    refine isCovered_ofFunction (forall_of_two fun a b others => ?_)
    rw [deciding]
    split <;> exact hasArguments_ok
  intro entry h
  simp only [operations, List.mem_cons, List.not_mem_nil, or_false] at h
  rcases h with rfl | rfl | rfl | rfl | rfl | rfl | rfl | rfl | rfl | rfl
  · refine isCovered_ofFunction (forall_of_one fun e others => ?_)
    rw [not]
    split <;> exact hasArguments_ok
  · refine isCovered_ofFunction fun args _ => ?_
    unfold and
    split <;> exact hasArguments_ok
  · refine isCovered_ofFunction fun args _ => ?_
    unfold or
    split <;> exact hasArguments_ok
  · refine isCovered_ofFunction fun args _ => ?_
    unfold xor
    split <;> exact hasArguments_ok
  all_goals exact hdeciding _ _

end Logic

namespace Parts

theorem isCovered : ∀ entry ∈ operations, entry.2.IsCovered := by
  have honParts (name : String) (f : Expr → List Expr → Expr) :
      (ofFunction 1 (onParts name f)).IsCovered := by
    refine isCovered_ofFunction (forall_of_one fun e others => ?_)
    cases e with
    | apply head args held => exact hasArguments_ok
    | symbol _ _ | number _ | string _ => exact hasArguments_error (by simp)
  intro entry h
  simp only [operations, List.mem_cons, List.not_mem_nil, or_false] at h
  rcases h with rfl | rfl | rfl | rfl | rfl | rfl | rfl
  · refine isCovered_ofFunction (forall_of_one fun e items => ?_)
    cases e with
    | apply head args held => exact hasArguments_ok
    | symbol _ _ | number _ | string _ => exact hasArguments_error (by simp)
  · refine isCovered_ofFunction (forall_of_one fun e items => ?_)
    cases e with
    | apply head args held => exact hasArguments_ok
    | symbol _ _ | number _ | string _ => exact hasArguments_error (by simp)
  · exact honParts _ _
  · exact honParts _ _
  · exact honParts _ _
  · exact honParts _ _
  · refine isCovered_ofFunction (forall_of_one fun e others => ?_)
    cases e with
    | apply _ _ _ | string _ => exact hasArguments_ok
    | symbol _ _ | number _ => exact hasArguments_error (by simp)

end Parts

namespace Strings

theorem isCovered : ∀ entry ∈ operations, entry.2.IsCovered := by
  intro entry h
  simp only [operations, List.mem_cons, List.not_mem_nil, or_false] at h
  rcases h with rfl | rfl | rfl | rfl <;> refine isCovered_ofFunction ?_
  · intro args _
    unfold concat
    split
    · exact hasArguments_ok
    · exact hasArguments_error (by simp)
  · refine forall_of_three fun a b c others => ?_
    unfold substring
    split
    · dsimp only
      split
      · exact hasArguments_error (by simp)
      · exact hasArguments_ok
    · exact hasArguments_error (by simp)
    next hnot => exact absurd rfl (hnot a b c others)
  · refine forall_of_one fun e others => ?_
    unfold split
    split
    · split
      · exact hasArguments_ok
      · exact hasArguments_error (by simp)
    · exact hasArguments_error (by simp)
    next heq => cases heq
  · refine forall_of_one fun e others => ?_
    unfold introduce
    split
    · dsimp only
      split
      · exact hasArguments_ok
      · split <;> exact hasArguments_ok
    · exact hasArguments_error (by simp)
    next heq => cases heq

end Strings

namespace Search

theorem isCovered : ∀ entry ∈ operations, entry.2.IsCovered := by
  intro entry h
  obtain rfl := List.mem_singleton.mp h
  refine isCovered_ofFunction (forall_of_two fun a b others => ?_)
  unfold search
  split
  · split
    · exact hasArguments_ok
    · exact hasArguments_error (by simp)
  · exact hasArguments_error (by simp)
  next hnot => exact absurd rfl (hnot a b others)

end Search

end Operation

/-- **The operations of the library read no argument beyond those they take at least.** -/
theorem Operations.isCovered (groups : List Group) {name : String} {operation : Operation}
    (h : (ofGroups groups).get? name = some operation) : operation.IsCovered := by
  open Operation in
  exact forall_of_get? Definition.isCovered Control.isCovered Form.isCovered Arithmetic.isCovered
    Logic.isCovered Parts.isCovered Strings.isCovered Search.isCovered Output.isCovered h

namespace Evaluator

variable {ev : Evaluator}

/-- The operations of the evaluator read no argument beyond those they take at least. -/
def IsCovered (ev : Evaluator) : Prop :=
  ∀ name operation, ev.operations.get? name = some operation → operation.IsCovered

theorem isCovered_ofGroups (limits : Limits) (groups : List Group) :
    (⟨limits, .ofGroups groups⟩ : Evaluator).IsCovered := by
  intro name operation h
  dsimp only at h
  exact Operations.isCovered groups h

/-- A call of an operation is turned down before it runs, or has all the arguments that are
read. -/
theorem dispatch_covered (hev : ev.IsCovered) {name : String} {operation : Operation}
    (hget : ev.operations.get? name = some operation) (evaluate : Expr → EvalM Expr) (call : Expr)
    (m : Machine) :
    (call.args.length < operation.minArgs ∧ (ev.dispatch evaluate call name).run m =
      (some (call.abort Failure.insufficientArguments.message), m)) ∨
    HasArguments ((operation.run evaluate call.args).run m).1 := by
  by_cases hfew : call.args.length < operation.minArgs
  · refine .inl ⟨hfew, ?_⟩
    simp only [dispatch, hget, if_pos hfew]
    rfl
  · exact .inr (hev name operation hget evaluate call.args (Nat.le_of_not_lt hfew) m)

end Evaluator

end Reduct
