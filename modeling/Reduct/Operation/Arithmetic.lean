import Reduct.Number.Remainder
import Reduct.Operation

/-!
# Arithmetic

The operations on numbers fold what is known and leave the rest. Sums and products put the
number they found after the operands that are none. Differences and quotients fold into a
first number; without one they gather what is taken away, or divided by, into one sum or one
product. The folds are stated for numbers of any kind.
-/

namespace Reduct.Operation.Arithmetic

/-- An operand of a fold: a number, or something that is none. -/
inductive Operand (ν ε : Type) where
  | number (value : ν)
  | other (e : ε)
deriving Repr, DecidableEq

/-- What a fold leaves of a call. -/
inductive Folded (ν ε : Type) where
  /-- Nothing but a number. -/
  | number (value : ν)
  /-- A call of the same operation. -/
  | call (operands : List (Operand ν ε))
  /-- A call of the same operation on its first operand and what a fold with the inverse
  operation leaves of the others. -/
  | regrouped (first : ε) (others : Folded ν ε)
deriving Repr, DecidableEq

namespace Operand

variable {ν ε : Type}

def number? : Operand ν ε → Option ν
  | .number value => some value
  | .other _ => none

def other? : Operand ν ε → Option ε
  | .number _ => none
  | .other e => some e

/-- An expression as an operand. -/
def ofExpr : Expr → Operand Float Expr
  | .number value => .number value
  | e => .other e

/-- An operand as an expression. -/
def toExpr : Operand Float Expr → Expr
  | .number value => .number value
  | .other e => e

end Operand

namespace Folded

/-- What a fold left as an expression, given the symbols of the operation and its inverse. -/
def toExpr (name inverse : String) : Folded Float Expr → Expr
  | .number value => .number value
  | .call operands => .call name (operands.map Operand.toExpr)
  | .regrouped first others => .call name [first, others.toExpr inverse name]

end Folded

section Folds

variable {ν ε : Type}

/-- Folds all numbers into one and puts it after the other operands. -/
def gather (op : ν → ν → ν) (operands : List (Operand ν ε)) : Folded ν ε :=
  let others := (operands.filterMap Operand.other?).map Operand.other
  match operands.filterMap Operand.number? with
  | [] => .call others
  | value :: values =>
    let total := values.foldl op value
    if others.isEmpty then .number total else .call (others ++ [.number total])

/-- Folds the numbers after a first number into it. With a first operand that is no number, the
others are gathered with the inverse operation when they are more than one. -/
def reduceFrom (op inverse : ν → ν → ν) (first : Operand ν ε) (operands : List (Operand ν ε)) :
    Folded ν ε :=
  match first with
  | .number value =>
    let total := (operands.filterMap Operand.number?).foldl op value
    let others := (operands.filterMap Operand.other?).map Operand.other
    if others.isEmpty then .number total else .call (.number total :: others)
  | .other e =>
    match operands with
    | [second] => .call [.other e, second]
    | _ => .regrouped e (gather inverse operands)

/-- Folds the numbers that come right after a first number into it. -/
def reduceRun (op : ν → ν → ν) (value : ν) : List (Operand ν ε) → Folded ν ε
  | [] => .number value
  | .number next :: operands => reduceRun op (op value next) operands
  | operands => .call (.number value :: operands)

end Folds

/-! ## The operations -/

def sum (args : List Expr) : Except Failure Expr :=
  .ok ((gather (· + ·) (args.map Operand.ofExpr)).toExpr "Sum" "Sub")

def product (args : List Expr) : Except Failure Expr :=
  .ok ((gather (· * ·) (args.map Operand.ofExpr)).toExpr "Mul" "Div")

def difference : List Expr → Except Failure Expr
  | first :: others =>
    .ok ((reduceFrom (· - ·) (· + ·) (.ofExpr first) (others.map .ofExpr)).toExpr "Sub" "Sum")
  | [] => .error .insufficientArguments

def quotient : List Expr → Except Failure Expr
  | first :: others =>
    .ok ((reduceFrom (· / ·) (· * ·) (.ofExpr first) (others.map .ofExpr)).toExpr "Div" "Mul")
  | [] => .error .insufficientArguments

/-- Remainders are taken from left to right, as far as the numbers go. -/
def modulus : List Expr → Except Failure Expr
  | [] => .error .insufficientArguments
  | .number value :: others =>
    .ok ((reduceRun remainder value (others.map .ofExpr)).toExpr "Mod" "Mod")
  | args => .ok (.call "Mod" args)

/-- Powers are taken from right to left, and only of numbers alone. -/
def powers : List Float → Float
  | [] => 1
  | [base] => base
  | base :: exponents => base.pow (powers exponents)

def power (args : List Expr) : Except Failure Expr :=
  match args.mapM Expr.number? with
  | some values => .ok (.number (powers values))
  | none => .ok (.call "Power" args)

/-- The operations on numbers. -/
def operations : List (String × Operation) := [
  ("Sum", .ofFunction 1 sum),
  ("Mul", .ofFunction 2 product),
  ("Sub", .ofFunction 2 difference),
  ("Div", .ofFunction 2 quotient),
  ("Mod", .ofFunction 2 modulus),
  ("Power", .ofFunction 2 power)]

end Reduct.Operation.Arithmetic
