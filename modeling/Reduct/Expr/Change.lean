import Reduct.Expr.Basic

/-!
# Passes that report changes

A pass over an expression replaces some of its subtrees. A node is left alone, hold mark and
all, when nothing below it was replaced; otherwise it is built anew from its parts, without a
mark. A pass therefore answers with an option, where `none` says that the very expression it
was given comes through.
-/

namespace Reduct.Expr

/-- The application after a pass over its head and its arguments. -/
def rebuilt? (head : Expr) (args : List Expr) (head' : Option Expr) (args' : Option (List Expr)) :
    Option Expr :=
  match head', args' with
  | none, none => none
  | _, _ => some (.app (head'.getD head) (args'.getD args))

/-- The arguments after a pass over the first and over the others. -/
def rebuiltArgs? (first : Expr) (others : List Expr) (first' : Option Expr)
    (others' : Option (List Expr)) : Option (List Expr) :=
  match first', others' with
  | none, none => none
  | _, _ => some (first'.getD first :: others'.getD others)

end Reduct.Expr
