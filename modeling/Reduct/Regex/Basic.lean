import Reduct.Regex.Tree

/-!
# Regular expressions

What a search pattern means once its flags are taken into account: characters, assertions
about a place, one after the other, one or the other, and repetition. The order of the
alternatives and the greed of repetitions say which of several matches at a place is found.
-/

namespace Reduct

namespace Regex

/-- An assertion about a place, with all it depends on. -/
inductive Assertion where
  | textStart
  | textEnd
  /-- The start of a line; `crlf` says that a carriage return ends lines as well. -/
  | lineStart (crlf : Bool)
  | lineEnd (crlf : Bool)
  | word (edge : WordEdge) (isWord : CharClass)

/-- Does the assertion hold between two characters? At an end of the text there is none. -/
def Assertion.holds (before after : Option Char) : Assertion → Bool
  | .textStart => before.isNone
  | .textEnd => after.isNone
  | .lineStart false => before.isNone || before == some '\n'
  | .lineStart true =>
    before.isNone || before == some '\n' || (before == some '\r' && after != some '\n')
  | .lineEnd false => after.isNone || after == some '\n'
  | .lineEnd true =>
    after.isNone || after == some '\r' || (after == some '\n' && before != some '\r')
  | .word edge isWord =>
    let left := before.any isWord
    let right := after.any isWord
    match edge with
    | .boundary => left != right
    | .inside => left == right
    | .start => !left && right
    | .stop => left && !right
    | .startHalf => !left
    | .stopHalf => !right

end Regex

/-- A regular expression. -/
inductive Regex where
  | empty
  | one (accepts : Regex.CharClass)
  | check (assertion : Regex.Assertion)
  | both (first second : Regex)
  | either (first second : Regex)
  | repeated (body : Regex) (least : Nat) (most : Option Nat) (isGreedy : Bool)

namespace Regex

/-- Can the expression match without taking a character? -/
def isNullable : Regex → Bool
  | .empty => true
  | .one _ => false
  | .check _ => true
  | .both first second => first.isNullable && second.isNullable
  | .either first second => first.isNullable || second.isNullable
  | .repeated body least _ _ => least == 0 || body.isNullable

/-- Does every match of the expression take no character? -/
def takesNothing : Regex → Bool
  | .empty => true
  | .one _ => false
  | .check _ => true
  | .both first second => first.takesNothing && second.takesNothing
  | .either first second => first.takesNothing && second.takesNothing
  | .repeated body _ most _ => most == some 0 || body.takesNothing

/-- A repetition. One round is enough of what takes no character. -/
def rounds (body : Regex) (least : Nat) (most : Option Nat) (isGreedy : Bool) : Regex :=
  if body.takesNothing then .repeated body (min least 1) (some (min (most.getD 1) 1)) isGreedy
  else .repeated body least most isGreedy

/-- How many nodes the expression takes as a program. -/
def size : Regex → Nat
  | .empty => 0
  | .one _ => 1
  | .check _ => 1
  | .both first second => first.size + second.size
  | .either first second => first.size + second.size + 1
  | .repeated body least none _ => (body.size + 1) * max 1 least + 1
  | .repeated body least (some most) _ => (body.size + 1) * max least most

end Regex

end Reduct
