import Reduct.Regex.Meaning
import Reduct.Regex.Program
import Reduct.Regex.Read

/-!
# Searching

A pattern is read, its meaning is laid out as a program, and the program is run from each
place of a text until it matches.
-/

namespace Reduct.Regex

/-- The room that one node takes, in bytes. -/
def nodeRoom : Nat := 32

/-- The expression of a pattern, unless it is at fault or takes too much room. -/
def ofPattern (pattern : String) : Except Error Regex := do
  let tree ← read pattern.toList
  let (regex, _) ← tree.meaning {}
  if regex.size * nodeRoom > roomLimit then throw .tooLarge
  return regex

/-- Where an expression first matches in a text, and how many characters the match has. -/
def find? (regex : Regex) (text : String) : Option (Nat × Nat) :=
  (Program.ofRegex regex).find? none 0 text.toList

end Reduct.Regex
