import Reduct.Scope

/-!
# Evaluation attributes

Six attributes of a symbol change how its applications are evaluated. `Listable` applications
thread over lists, `Flat` ones are spliced into each other, the arguments of `Orderless` ones
are sorted, and the other three leave arguments as they are.
-/

namespace Reduct

/-- The evaluation attributes of a symbol. -/
structure Attributes where
  listable : Bool := false
  flat : Bool := false
  orderless : Bool := false
  holdAll : Bool := false
  holdFirst : Bool := false
  holdRest : Bool := false
deriving Repr, DecidableEq

namespace Attributes

/-- The evaluation attributes of a symbol as now visible. -/
def ofSymbol (s : Scopes) (name : String) : Attributes :=
  let has (key : String) : Bool := (s.attribute? name key).isSome
  { listable := has "Listable"
    flat := has "Flat"
    orderless := has "Orderless"
    holdAll := has "HoldAll"
    holdFirst := has "HoldFirst"
    holdRest := has "HoldRest" }

/-- Is the argument at the place `index` evaluated? A wider hold goes before a narrower one,
and holding the first argument before holding the others. -/
def evaluates (a : Attributes) (index : Nat) : Bool :=
  if a.holdAll then false
  else if a.holdFirst then index > 0
  else if a.holdRest then index == 0
  else true

end Attributes

end Reduct
