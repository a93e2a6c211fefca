import Reduct.Operation

/-!
# Logic

The connectives decide what the truth values among their operands decide and keep the other
operands in their order; a single one that is left stands for itself. Comparisons decide atoms
of one kind and keep everything else.
-/

namespace Reduct.Operation.Logic

/-! ## Connectives -/

/-- The truth values among the operands, combined from the left. -/
def decided? (op : Bool → Bool → Bool) (args : List Expr) : Option Bool :=
  match args.filterMap Expr.bool? with
  | [] => none
  | b :: bs => some (bs.foldl op b)

/-- The operands that are no truth values. -/
def undecided (args : List Expr) : List Expr := args.filter fun e => e.bool?.isNone

/-- What is left of a connective: a single operand alone, several under its symbol. -/
def residue (name : String) : List Expr → Expr
  | [e] => e
  | es => .call name es

def not : List Expr → Except Failure Expr
  | [] => .error .insufficientArguments
  | e :: es =>
    match e.bool? with
    | some b => .ok (.ofBool !b)
    | none => .ok (.call "Not" (e :: es))

def and (args : List Expr) : Except Failure Expr :=
  match decided? (· && ·) args, undecided args with
  | some false, _ => .ok (.ofBool false)
  | some true, [] => .ok (.ofBool true)
  | _, others => .ok (residue "And" others)

def or (args : List Expr) : Except Failure Expr :=
  match decided? (· || ·) args, undecided args with
  | some true, _ => .ok (.ofBool true)
  | some false, [] => .ok (.ofBool false)
  | _, others => .ok (residue "Or" others)

def xor (args : List Expr) : Except Failure Expr :=
  match decided? (· ^^ ·) args, undecided args with
  | some b, [] => .ok (.ofBool b)
  | some true, others => .ok (.call "Not" [residue "Xor" others])
  | _, others => .ok (residue "Xor" others)

/-! ## Comparisons -/

/-- Are two atoms of one kind equal? Numbers are compared by value. -/
def equal? : Expr → Expr → Option Bool
  | .symbol a _, .symbol b _ => some (a == b)
  | .number a, .number b => some (a == b)
  | .string a, .string b => some (a == b)
  | _, _ => none

/-- How two numbers compare. -/
def compare? (test : Float → Float → Bool) : Expr → Expr → Option Bool
  | .number a, .number b => some (test a b)
  | _, _ => none

/-- An operation that decides by its first two operands, and keeps the call where it cannot. -/
def deciding (name : String) (decide? : Expr → Expr → Option Bool) :
    List Expr → Except Failure Expr
  | a :: b :: others =>
    match decide? a b with
    | some answer => .ok (.ofBool answer)
    | none => .ok (.call name (a :: b :: others))
  | _ => .error .insufficientArguments

/-- The operations on truth values, and those that give them. -/
def operations : List (String × Operation) := [
  ("Not", .ofFunction 1 not),
  ("And", .ofFunction 2 and),
  ("Or", .ofFunction 2 or),
  ("Xor", .ofFunction 2 xor),
  ("Equal", .ofFunction 2 (deciding "Equal" equal?)),
  ("NotEqual", .ofFunction 2 (deciding "NotEqual" fun a b => (equal? a b).map (!·))),
  ("Less", .ofFunction 2 (deciding "Less" (compare? (· < ·)))),
  ("LessOrEqual", .ofFunction 2 (deciding "LessOrEqual" (compare? (· ≤ ·)))),
  ("Greater", .ofFunction 2 (deciding "Greater" (compare? (· > ·)))),
  ("GreaterOrEqual", .ofFunction 2 (deciding "GreaterOrEqual" (compare? (· ≥ ·))))]

end Reduct.Operation.Logic
