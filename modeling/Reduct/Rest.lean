/-!
# Rests

What a reader leaves of its input. That a reader leaves less than it was given is part of what
it returns, so that reading on ends.
-/

namespace Reduct

variable {α : Type}

/-- What is left of `xs` after at least one item. -/
abbrev Shorter (xs : List α) := { rest : List α // rest.length < xs.length }

/-- What is left of `xs`, perhaps all of it. -/
abbrev NotLonger (xs : List α) := { rest : List α // rest.length ≤ xs.length }

/-- Everything is left. -/
abbrev NotLonger.all (xs : List α) : NotLonger xs := ⟨xs, Nat.le_refl _⟩

/-- All but the first item is left. -/
abbrev Shorter.tail (x : α) (xs : List α) : Shorter (x :: xs) := ⟨xs, Nat.lt_succ_self _⟩

end Reduct
