import Reduct.Text.Blank
import Reduct.Text.CaseFold
import Reduct.Text.DecimalDigit
import Reduct.Text.Word

/-!
# Character classes

A class is the test that its characters pass. The named classes come in two ranges: all of
Unicode, or ASCII alone.
-/

namespace Reduct.Regex

/-- A set of characters, as the test for them. -/
abbrev CharClass := Char → Bool

namespace CharClass

/-- One character. -/
def single (c : Char) : CharClass := (· == c)

/-- The characters from one to another. -/
def range (first last : Char) : CharClass := fun c => first ≤ c && c ≤ last

/-- The characters of some class. -/
def union (classes : List CharClass) : CharClass := fun c => classes.any fun s => s c

/-- All other characters. -/
def complement (s : CharClass) : CharClass := fun c => !s c

/-- The class with the variants in case of its characters. -/
def ignoringCase (variants : Char → List Char) (s : CharClass) : CharClass :=
  fun c => (variants c).any s

end CharClass

/-- The classes with a letter of their own. -/
inductive LetterClass where
  | digit
  | blank
  | word
deriving Repr, DecidableEq

/-- The characters of a class with a letter. -/
def LetterClass.chars (isUnicode : Bool) : LetterClass → CharClass
  | .digit => if isUnicode then Text.isDecimalDigit else Char.isDigit
  | .blank =>
    if isUnicode then Text.isBlank
    else fun c => c == ' ' || ('\t' ≤ c && c ≤ '\r')
  | .word => if isUnicode then Text.isWord else fun c => c.isAlphanum || c == '_'

/-- The ASCII classes that are written by name, by those names. -/
def namedClass? : String → Option CharClass
  | "alnum" => some Char.isAlphanum
  | "alpha" => some Char.isAlpha
  | "ascii" => some fun c => c ≤ '\x7f'
  | "blank" => some fun c => c == '\t' || c == ' '
  | "cntrl" => some fun c => c ≤ '\x1f' || c == '\x7f'
  | "digit" => some Char.isDigit
  | "graph" => some fun c => '!' ≤ c && c ≤ '~'
  | "lower" => some Char.isLower
  | "print" => some fun c => ' ' ≤ c && c ≤ '~'
  | "punct" => some fun c => '!' ≤ c && c ≤ '~' && !c.isAlphanum
  | "space" => some fun c => c == ' ' || ('\t' ≤ c && c ≤ '\r')
  | "upper" => some Char.isUpper
  | "word" => some fun c => c.isAlphanum || c == '_'
  | "xdigit" => some fun c => (Text.hexValue? c).isSome
  | _ => none

end Reduct.Regex
