/-!
# Quoted strings

A string literal stands between double quotes. Inside, a backslash makes the next character
stand for itself; writing puts one before each quote and each backslash and nowhere else.
Reading what was written gives the text back (`unescape_escape`).
-/

namespace Reduct.Text

/-- The inside of a literal: a backslash before each quote and each backslash. -/
def escape : List Char → List Char
  | [] => []
  | c :: cs => if c = '"' ∨ c = '\\' then '\\' :: c :: escape cs else c :: escape cs

/-- What the inside of a literal says: a backslash is dropped and the character after it kept. -/
def unescape : List Char → List Char
  | [] => []
  | '\\' :: c :: cs => c :: unescape cs
  | ['\\'] => []
  | c :: cs => c :: unescape cs

/-- The literal of a text, as characters. -/
def quotedChars (cs : List Char) : List Char := '"' :: (escape cs ++ ['"'])

/-- The literal of a text. -/
def quote (text : String) : String := String.ofList (quotedChars text.toList)

/-- The text of a literal: its first and last character go, the rest is unescaped. -/
def unquote (literal : String) : String :=
  String.ofList (unescape literal.toList.tail.dropLast)

/-- Reading the inside of a literal gives back the text it was written for. -/
theorem unescape_escape (cs : List Char) : unescape (escape cs) = cs := by
  induction cs with
  | nil => rfl
  | cons c cs ih =>
    by_cases h : c = '"' ∨ c = '\\'
    · simp [escape, h, unescape, ih]
    · have hb : c ≠ '\\' := fun hc => h (Or.inr hc)
      rw [escape, if_neg h]
      rw [unescape, ih]
      · rintro c' cs' rfl
        exact absurd rfl hb
      · intro hc
        exact absurd hc hb

end Reduct.Text
