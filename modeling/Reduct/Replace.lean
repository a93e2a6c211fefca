import Reduct.Rule

/-!
# Replacing inside an expression

A list of rules is applied at every place of an expression, the first rule that accepts a node
deciding. `replace` works from the top: a node that was replaced is not looked into. In
`replaceAll` the parts of a node come first, and the rules see the node that results. Nodes
without a replacement below them come through as they are.
-/

namespace Reduct.Replace

/-- What rules do at one node. -/
inductive Outcome where
  /-- A rule accepted the node and gives it back. -/
  | kept
  /-- A rule made something else of the node. -/
  | became (e : Expr)

/-- What the first rule that accepts the node does. -/
def outcome? (rules : List Rule) (e : Expr) (s : Sharing := .never) : Option Outcome :=
  rules.findSome? fun rule =>
    (rule.resolve? e s.made).map fun result =>
      if rule.isIdentity || s.isSame [] e result then .kept else .became result

mutual

/-- Replaces from the top. -/
def replace? (rules : List Rule) : Expr → (s : Sharing := .never) → Option Expr
  | .apply head args held, s =>
    match outcome? rules (.apply head args held) s with
    | some .kept => none
    | some (.became e) => some e
    | none => Expr.rebuilt? head args (replace? rules head s.first) (replaceIn? rules args s.rest)
  | atom, s =>
    match outcome? rules atom s with
    | some (.became e) => some e
    | _ => none

/-- Replaces in each expression of a list. -/
def replaceIn? (rules : List Rule) : List Expr → (s : Sharing := .never) → Option (List Expr)
  | [], _ => none
  | e :: es, s => Expr.rebuiltArgs? e es (replace? rules e s.first) (replaceIn? rules es s.rest)

end

/-- What is left of `e` when `node?` has been made of its parts and the rules have seen that. -/
def visit? (rules : List Rule) (e : Expr) (node? : Option Expr) (s : Sharing := .never) :
    Option Expr :=
  match outcome? rules (node?.getD e) s with
  | some (.became v) => some v
  | _ => node?

mutual

/-- Replaces from the bottom. -/
def replaceAll? (rules : List Rule) : Expr → (s : Sharing := .never) → Option Expr
  | .apply head args held, s =>
    visit? rules (.apply head args held)
      (Expr.rebuilt? head args (replaceAll? rules head s.first) (replaceAllIn? rules args s.rest)) s
  | atom, s => visit? rules atom none s

/-- Replaces in each expression of a list, each from the bottom. -/
def replaceAllIn? (rules : List Rule) : List Expr → (s : Sharing := .never) → Option (List Expr)
  | [], _ => none
  | e :: es, s =>
    Expr.rebuiltArgs? e es (replaceAll? rules e s.first) (replaceAllIn? rules es s.rest)

end

end Reduct.Replace

namespace Reduct.Expr

/-- The expression with every outermost node that a rule accepts replaced. -/
def replace (rules : List Rule) (e : Expr) (s : Sharing := .never) : Expr :=
  (Replace.replace? rules e s).getD e

/-- The expression with every node that a rule accepts replaced, parts before wholes. -/
def replaceAll (rules : List Rule) (e : Expr) (s : Sharing := .never) : Expr :=
  (Replace.replaceAll? rules e s).getD e

end Reduct.Expr
