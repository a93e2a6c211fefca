import Reduct.Pattern

/-!
# Rules

A rule turns what its pattern accepts into its value with the bindings put in. The weight of
a pattern says how general it is: first by the applications in it, then by the captures. The
lighter a pattern, the earlier its rule is tried.
-/

namespace Reduct

/-- A rule from a pattern to a value. -/
structure Rule where
  pattern : Expr
  value : Expr

/-- How general a pattern is. -/
structure Weight where
  applications : Nat := 0
  captures : Nat := 0
deriving Repr, DecidableEq

namespace Weight

/-- The weight of two parts together. -/
def add (a b : Weight) : Weight := ⟨a.applications + b.applications, a.captures + b.captures⟩

/-- Is `a` no heavier than `b`? Applications count first. -/
def le (a b : Weight) : Bool :=
  a.applications < b.applications ||
    (a.applications == b.applications && a.captures ≤ b.captures)

mutual

/-- The weight of a pattern. A capture is one application, whatever its arguments. -/
def ofPattern : Expr → Weight
  | .apply head args held =>
    match Pattern.key? (.apply head args held) with
    | some _ => ⟨1, 1⟩
    | none => (⟨1, 0⟩ : Weight).add ((ofPattern head).add (ofPatterns args))
  | _ => {}

/-- The weight of several patterns together. -/
def ofPatterns : List Expr → Weight
  | [] => {}
  | e :: es => (ofPattern e).add (ofPatterns es)

end

end Weight

namespace Rule

/-- The weight of the pattern. -/
def weight (rule : Rule) : Weight := .ofPattern rule.pattern

/-- What the rule makes of an expression, if it accepts it. -/
def resolve? (rule : Rule) (e : Expr) (s : Sharing := .never) : Option Expr :=
  (Pattern.match? rule.pattern e).map fun captures => captures.instantiate rule.value s

/-- Does the rule give back the very expression it is applied to? It does when its pattern is
a single capture and its value the key. -/
def isIdentity (rule : Rule) : Bool :=
  match Pattern.key? rule.pattern with
  | some key => key.same rule.value
  | none => false

end Rule

end Reduct
