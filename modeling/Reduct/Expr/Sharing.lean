import Reduct.Expr.Change

/-!
# Shared nodes

Expressions share their nodes, and what a pass puts in the place of a node can be the very node
that stands there. Then the pass has changed nothing. Equal expressions do not show whether they
are one node or two, so a pass is told: a `Sharing` answers the question at each place where the
pass puts something in.
-/

namespace Reduct

/-- A turn on the way to a place where something is put in: to the first of two parts, to the
rest, or into what a rule makes of the node. -/
inductive Sharing.Way where
  | first
  | rest
  | made

/-- Which of the values that a pass puts in are the very nodes in whose places they are put. -/
structure Sharing where
  isSame : (place : List Sharing.Way) → (node value : Expr) → Bool
  /-- One node is one expression. -/
  eq_of_isSame {place : List Sharing.Way} {node value : Expr} :
    isSame place node value → node = value

namespace Sharing

/-- No value is taken for the node in whose place it is put. -/
def never : Sharing := ⟨fun _ _ _ => false, by simp⟩

/-- The answers further on the way. -/
def turn (s : Sharing) (way : Way) : Sharing :=
  ⟨fun place => s.isSame (way :: place), s.eq_of_isSame⟩

/-- The answers in the first of two parts. -/
abbrev first (s : Sharing) : Sharing := s.turn .first

/-- The answers in the rest. -/
abbrev rest (s : Sharing) : Sharing := s.turn .rest

/-- The answers in what a rule makes of the node. -/
abbrev made (s : Sharing) : Sharing := s.turn .made

/-- The value in the place of a node; `none` if it is the very node. -/
def change? (s : Sharing) (node value : Expr) : Option Expr :=
  if s.isSame [] node value then none else some value

@[simp] theorem turn_never (way : Way) : never.turn way = never := rfl

@[simp] theorem change?_never (node value : Expr) : never.change? node value = some value := rfl

@[simp] theorem getD_change? (s : Sharing) (node value : Expr) :
    (s.change? node value).getD node = value := by
  rw [change?]
  split
  next h => exact s.eq_of_isSame h
  next => rfl

end Sharing

end Reduct
