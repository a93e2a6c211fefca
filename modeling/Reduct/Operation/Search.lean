import Reduct.Operation
import Reduct.Regex.Search

/-!
# Searching in strings

The operation that looks for a pattern in a string and tells where it first matches.
-/

namespace Reduct.Operation.Search

/-- What a search found: the place and the length of the match, in characters, or that there is
none. -/
def entry : Option (Nat × Nat) → Expr
  | some (index, length) => .call "Entry" [.number (.ofNat index), .number (.ofNat length)]
  | none => .call "Entry" [.ofBool false]

/-- Looks for the first match of a pattern in a string. -/
def search : List Expr → Except Failure Expr
  | .string text :: .string pattern :: _ =>
    match Regex.ofPattern pattern with
    | .ok regex => .ok (entry (regex.find? text))
    | .error error => .error (.searchPattern pattern error)
  | _ :: _ :: _ => .error .matchOperands
  | _ => .error .insufficientArguments

/-- The operation that searches. -/
def operations : List (String × Operation) := [("Match", .ofFunction 2 search)]

end Reduct.Operation.Search
