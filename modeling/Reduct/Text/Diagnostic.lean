import Reduct.Text.Printable

/-!
# Quoting in diagnostics

Error messages quote pieces of source text. Unlike a string literal, the quoted piece shows
every character that would be invisible: tab, line feed, carriage return and NUL by a letter,
the others by their code point in hexadecimal.
-/

namespace Reduct.Text

/-- The character by its code point: a backslash, `u` and the hexadecimal digits in braces. -/
def codePoint (c : Char) : List Char :=
  ['\\', 'u', '\x7b'] ++ Nat.toDigits 16 c.toNat ++ ['\x7d']

/-- How a diagnostic shows one character. -/
def shown (c : Char) : List Char :=
  if c = '\x00' then ['\\', '0']
  else if c = '\t' then ['\\', 't']
  else if c = '\r' then ['\\', 'r']
  else if c = '\n' then ['\\', 'n']
  else if c = '\\' ∨ c = '"' then ['\\', c]
  else if isExtender c || !isPrintable c then codePoint c
  else [c]

/-- A piece of text as a diagnostic quotes it. -/
def diagnostic (text : String) : String :=
  String.ofList ('"' :: (text.toList.flatMap shown ++ ['"']))

end Reduct.Text
