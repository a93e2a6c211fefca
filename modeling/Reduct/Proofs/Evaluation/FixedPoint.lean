import Reduct.Proofs.Evaluation.HeldBelow
import Reduct.Proofs.Evaluation.Returns
import Reduct.Proofs.Session.Inputs

/-!
# When a value evaluates to itself

An expression settles when a step leaves its text as it was. Evaluating the value once more takes
that last step again. It gives the same value if it starts from the same expression in a state
that evaluation cannot tell from the earlier one (`Machine.AgreeFor`), and that is so if the last
step gave back the expression it took, marks and all, and changed neither definitions nor the names
drawn nor what rewritings find of shared marked nodes (`Evaluator.EndsQuietly`). A held value is left
alone anyway, and a failed one stands as long as `Abort` means what it does from the start.

The text alone does not tell. The trials at the end are of last steps that leave it as it was, and
change the state, or hold marks, or which nodes are shared, so that the value does not evaluate to
itself.
-/

namespace Reduct

/-! ### Failed values and `Abort` -/

namespace Scopes

/-- `Abort` means what it does from the start: it has no rules, and its arguments are held. -/
structure AbortsStand (s : Scopes) : Prop where
  rules : (s.chain "Abort").all fun version => version.rules.rules.isEmpty
  attributes : Attributes.ofSymbol s "Abort" = { holdAll := true }

instance (s : Scopes) : Decidable s.AbortsStand :=
  decidable_of_iff (_ ∧ _) ⟨fun h => ⟨h.1, h.2⟩, fun h => ⟨h.1, h.2⟩⟩

theorem abortsStand_initial : initial.AbortsStand := by decide +kernel

theorem AbortsStand.resolve?_eq_none {scopes : Scopes} (h : scopes.AbortsStand) {e : Expr}
    (howner : e.owner? = some "Abort") (s : Sharing) : scopes.resolve? e s = none :=
  resolve?_eq_none_of_owner howner (fun version hversion =>
    List.isEmpty_iff.mp (List.all_eq_true.mp h.rules version hversion)) s

end Scopes

/-! ### The last step once more -/

open EvalM (Returns)

namespace Evaluator

variable {ev : Evaluator} {e : Expr} {m : Machine}

/-- The last step that the evaluation of `e` from the state `m` takes gives back the expression it
is taken from, hold marks and all, and leaves definitions and names drawn as they were. The
rewritings that come after it are told of shared nodes what those in it were, or of marked ones at
least, where marks reach down; so they are if there are none in it (`Evaluator.answers_reduce`). -/
def EndsQuietly (ev : Evaluator) (e : Expr) (m : Machine) : Prop :=
  ∀ n q, Passes (ev.reduce ev.evaluate) e n (e, m.descend) q →
    goesOn (ev.reduce ev.evaluate) q = false →
      let last := (ev.reduce ev.evaluate q.1).run q.2
      last.1.expr = q.1 ∧ Machine.AgreeFor q.1 q.2 last.2

/-- A step in which nothing is rewritten leaves all answers to the rewritings to come. -/
theorem answers_reduce (hev : ev.IsStepwise) (e : Expr) (m : Machine)
    (h : ((ev.reduce ev.evaluate e).run m).2.rewritings = m.rewritings) :
    m.answers = ((ev.reduce ev.evaluate e).run m).2.answers := by
  refine funext fun n => ?_
  rw [Machine.answers, Machine.answers, h, (balanced_reduce hev e m).sharing]

/-- A step taken once more, from a state that evaluation cannot tell from the earlier one. -/
theorem evaluate_again_of_quiet (hev : ev.IsStepwise) (hkeeps : ev.KeepsTo .heldBelow)
    {q : Expr × Machine} {m' : Machine} (hheld : q.1.isHeld = false)
    (hdepth : m'.depth < ev.limits.recursion) (hagree : Machine.AgreeFor q.1 q.2 m'.descend)
    (hlast : goesOn (ev.reduce ev.evaluate) q = false)
    (hquiet : ((ev.reduce ev.evaluate q.1).run q.2).1.expr = q.1) :
    ((ev.evaluate q.1).run m').1 = q.1 := by
  have hvalue := reduce_of_agreeFor hev hkeeps hagree
  have hlast' : goesOn (ev.reduce ev.evaluate) (q.1, m'.descend) = false := by
    rw [goesOn, ← hvalue]
    exact hlast
  rw [evaluate_run_of_not_goesOn hev hheld hdepth hlast', ← hvalue, hquiet]

/-! ### A failed value once more -/

section Abort

variable (hev : ev.IsStepwise) (hoperation : ev.operations.get? "Abort" = none)
  (hstand : m.scopes.AbortsStand)
include hev hoperation hstand

/-- A step leaves an application of `Abort` as it is. -/
theorem returns_reduce_abort (hdepth : m.depth < ev.limits.recursion) (marked : Bool)
    (args : List Expr) :
    Returns m (ev.reduce ev.evaluate (.app (.symbol "Abort" marked) args))
      (.plain (.app (.symbol "Abort" marked) args)) := by
  refine returns_reduce_of_holdAll (returns_symbol hev hdepth (hstand.resolve?_eq_none rfl)) rfl
    hstand.attributes ?_
  refine returns_reduceCall_of_free rfl (hstand.resolve?_eq_none rfl) rfl fun name hname => ?_
  obtain rfl := Option.some.inj hname
  exact hoperation

/-- A failed value evaluates to itself as long as `Abort` means what it does from the start. -/
theorem evaluate_abort (hdepth : m.depth + 1 < ev.limits.recursion) (he : e.isAbort) :
    ((ev.evaluate e).run m).1 = e := by
  obtain ⟨marked, cause, message, held, rfl⟩ := Expr.eq_of_isAbort he
  cases held with
  | true => rw [evaluate_run_of_isHeld rfl]
  | false =>
      have hreduce := returns_reduce_abort (m := m.descend) hev hoperation hstand hdepth marked
        [cause, .string message]
      exact (returns_of_last hev rfl (Nat.lt_of_succ_lt hdepth) hreduce
        (Reduced.isActive_plain_self _) m (.refl m)).1

end Abort

/-! ### Any value once more -/

/-- A value that is neither held nor failed is the result of a step after which the evaluation does
not go on. -/
theorem exists_last_step (hev : ev.IsStepwise) (hheld : ¬ ((ev.evaluate e).run m).1.isHeld)
    (hfailed : ¬ ((ev.evaluate e).run m).1.isAbort) :
    m.depth < ev.limits.recursion ∧
    ∃ n q, Passes (ev.reduce ev.evaluate) e n (e, m.descend) q ∧
      goesOn (ev.reduce ev.evaluate) q = false ∧
      (ev.evaluate e).run m = (((ev.reduce ev.evaluate q.1).run q.2).1.expr,
        ((ev.reduce ev.evaluate q.1).run q.2).2.ascend) := by
  have hunheld : e.isHeld = false := by
    by_contra he
    rw [evaluate_run_of_isHeld (by simpa using he)] at hheld
    exact hheld (by simpa using he)
  have hdepth : m.depth < ev.limits.recursion := by
    by_contra hdepth
    rw [evaluate_run_of_no_level hunheld (by omega)] at hfailed
    exact hfailed (Expr.isAbort_abort e _)
  obtain ⟨n, -, q, hpasses, -, hrun⟩ := exists_passes hev hunheld hdepth
  have hlast : goesOn (ev.reduce ev.evaluate) q = false := by
    by_contra hgoes
    rw [hrun, lastStep, if_pos (by simpa using hgoes)] at hfailed
    exact hfailed (Expr.isAbort_abort _ _)
  refine ⟨hdepth, n, q, hpasses, hlast, ?_⟩
  rw [hrun, lastStep, if_neg (by simp [hlast]), stride_of_not_goesOn hlast]

/-- **A value evaluates to itself** if the last step of the evaluation that it comes from would do
the same again: if the value is held or has failed, or that step changed nothing at all. -/
theorem evaluate_again (hev : ev.IsStepwise) (hkeeps : ev.KeepsTo .heldBelow)
    (hoperation : ev.operations.get? "Abort" = none) (hlevels : ev.limits.recursion - m.depth ≠ 1)
    (hstand : ((ev.evaluate e).run m).2.scopes.AbortsStand)
    (hlast : ((ev.evaluate e).run m).1.isHeld ∨ ((ev.evaluate e).run m).1.isAbort ∨
      ev.EndsQuietly e m) :
    ((ev.evaluate ((ev.evaluate e).run m).1).run ((ev.evaluate e).run m).2).1 =
      ((ev.evaluate e).run m).1 := by
  have hdepth := (balanced_evaluate hev e m).depth
  by_cases hheld : ((ev.evaluate e).run m).1.isHeld
  · rw [evaluate_run_of_isHeld hheld]
  by_cases hfailed : ((ev.evaluate e).run m).1.isAbort
  · by_cases hlimit : ev.limits.recursion ≤ m.depth
    · rw [evaluate_run_of_no_level (by simpa using hheld) (by omega)]
      exact Expr.abort_of_isAbort hfailed _
    · exact evaluate_abort hev hoperation hstand (by omega) hfailed
  have hquiet : ev.EndsQuietly e m := by simpa [hheld, hfailed] using hlast
  obtain ⟨hlimit, n, q, hpasses, hgoes, hrun⟩ := exists_last_step hev hheld hfailed
  obtain ⟨hexpr, hsame⟩ := hquiet n q hpasses hgoes
  have hq := (balanced_passes hev hpasses).depth
  rw [hrun] at hheld hdepth ⊢
  dsimp only at hheld hdepth ⊢
  rw [hexpr] at hheld ⊢
  have hagree : Machine.AgreeFor q.1 q.2 ((ev.reduce ev.evaluate q.1).run q.2).2.ascend.descend :=
    ⟨hsame.scopes, hq.trans (congrArg (· + 1) hdepth.symm), hsame.lastFresh, hsame.told⟩
  exact evaluate_again_of_quiet hev hkeeps (by simpa using hheld) (hdepth ▸ hlimit) hagree hgoes
    hexpr

end Evaluator

/-! ### In a session -/

namespace Operations

/-- No operation of the library is one on `Abort`. -/
theorem get?_abort (groups : List Group) : (ofGroups groups).get? "Abort" = none := by
  have hcore : "Abort" ∉ core.map Prod.fst := by decide
  have hgroup : ∀ group : Group, "Abort" ∉ group.operations.map Prod.fst := by
    intro group
    cases group <;> decide
  by_contra h
  obtain ⟨operation, hget⟩ := Option.ne_none_iff_exists'.mp h
  obtain hmem | hmem := List.mem_append.mp (Table.mem_of_get?_ofList hget)
  · exact hcore (List.mem_map.mpr ⟨_, hmem, rfl⟩)
  · obtain ⟨group, -, hentry⟩ := List.mem_flatMap.mp hmem
    exact hgroup group (List.mem_map.mpr ⟨_, hentry, rfl⟩)

end Operations

namespace Session

end Session

/-! ### Values that do not evaluate to themselves -/

/-- A session with its inputs, and an expression to evaluate after them. -/
structure Trial where
  limits : Limits := {}
  groups : List Group := []
  sharing : Nat → Sharing := fun _ => .never
  inputs : List Input := []
  e : Expr

namespace Trial

open Reduct.Expr

/-- The session after the inputs. -/
def session (t : Trial) : Session :=
  .after { limits := t.limits } t.groups none t.inputs t.sharing

/-- The texts of the value of the expression and of what it evaluates to straight afterwards. -/
def texts (t : Trial) : String × String :=
  let (value, s) := t.session.evaluate t.e
  (value.render, (s.evaluate value).1.render)

/-- The input that declares a rule. -/
private def delayed (pattern value : Expr) : Input := .expr (call "Delayed" [pattern, value])

/-- `a` withdraws its rule and gives one to `x`, which is evaluated before. -/
def assigning : Trial where
  inputs := [delayed (sym "a")
    (call "Seq" [call "Clear" [sym "a"], call "Set" [sym "x", sym "y"], sym "a"])]
  e := call "g" [sym "x", sym "a"]

/-- `a` and `b` withdraw their own rules and give each other new ones, so that after both the
definitions are the same as before. In between, a name is drawn, and the next one has a rule. -/
def drawing : Trial where
  inputs := [
    delayed (sym "a") (call "go" []),
    delayed (sym "b") (sym "c"),
    .expr (call "Clear" [sym "b"]),
    delayed (call "go" []) (call "Seq" [call "Clear" [sym "a"],
      call "Module" [list [sym "t"], sym "t"], call "Delayed" [sym "b", call "back" []], sym "a"]),
    delayed (call "back" []) (call "Seq" [call "Clear" [sym "b"],
      call "Delayed" [sym "a", call "go" []], sym "b"]),
    delayed (sym "t$2") (call "Set" [sym "x", sym "y"])]
  e := call "g" [sym "a", sym "b", sym "x"]

/-- The operation on `Sum` makes its call anew, with a head that is not held any more. -/
def unmarking : Trial where
  groups := [.math, .list]
  inputs := [delayed (sym "Sum") (sym "f")]
  e := call "Append" [call "Hold" [call "Sum" [sym "a"]], sym "b"]

/-- `a` withdraws the rule of `z` and `b` declares it again; both become held. -/
def marking : Trial where
  inputs := [
    delayed (sym "z") (sym "w"),
    delayed (sym "a") (call "Seq" [call "Clear" [sym "z"], call "Hold" [sym "a"]]),
    delayed (sym "b") (call "Seq" [call "Delayed" [sym "z", sym "w"], call "Hold" [sym "b"]])]
  e := call "g" [sym "a", sym "z", sym "b"]

/-- The arguments of `a` are one node at first, and not any more in the value. -/
def unsharing : Trial where
  sharing := Unsharing.sharing 3
  inputs := Unsharing.rules.map (fun rule => delayed rule.pattern rule.value) ++
    [delayed (call "twice" [Unsharing.pattern "n"]) (Unsharing.leaf (sym "n") (sym "n"))]
  e := call "twice" [.string "s"]

/-- With one level, the head of an application is too deep, and so is that of the failure. -/
def tooDeep : Trial where
  limits := { recursion := 1 }
  e := call "g" []

/-- The expression gives a rule to `Abort` before it fails. -/
def catching : Trial where
  groups := [.list]
  e := call "Seq" [
    call "Delayed" [call "Abort" [call "Pattern" [sym "u"], call "Pattern" [sym "v"]], sym "w"],
    call "First" [sym "x"]]

end Trial

end Reduct
