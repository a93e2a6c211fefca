import Reduct.Machine

/-!
# Operations

An operation gives meaning to the applications of a symbol that no rule covers. It takes a
least number of arguments, which is checked before it runs; it may evaluate expressions on its
own, and it may fail.
-/

namespace Reduct

/-- What the applications of a symbol do. -/
structure Operation where
  /-- The least number of arguments. -/
  minArgs : Nat
  /-- What is done with the arguments, given a way to evaluate expressions. -/
  run : (evaluate : Expr → EvalM Expr) → List Expr → EvalM (Except Failure Expr)

namespace Operation

/-- An operation that only computes with its arguments. -/
def ofFunction (minArgs : Nat) (f : List Expr → Except Failure Expr) : Operation :=
  ⟨minArgs, fun _ args => pure (f args)⟩

/-- An operation that rewrites its arguments. -/
def ofRewriting (minArgs : Nat) (f : Sharing → List Expr → Except Failure Expr) : Operation :=
  ⟨minArgs, fun _ args => EvalM.rewriting (f · args) fun _ => true⟩

/-- An operation that works on the state and evaluates nothing. -/
def ofEffect (minArgs : Nat) (f : List Expr → EvalM (Except Failure Expr)) : Operation :=
  ⟨minArgs, fun _ args => f args⟩

end Operation

/-- Operations under the names of their symbols. -/
abbrev Operations := Table Operation

end Reduct
