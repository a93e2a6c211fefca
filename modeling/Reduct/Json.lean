import Reduct.Json.Token
import Reduct.Rest

/-!
# JSON

Values of the JSON format and their reader. The reader takes the format as it is defined and
nothing beyond it: no comments, no trailing commas, no other white space. Numbers and strings
keep what the configuration reads of them.
-/

namespace Reduct

/-- A JSON value. The members of an object are in the order of the text. -/
inductive Json where
  | null
  | bool (value : Bool)
  | number (natural? : Option Nat)
  | string (text? : Option String)
  | array (items : List Json)
  | object (members : List (Option String × Json))

namespace Json

mutual

/-- Reads a value. -/
def value? (ts : List Token) : Option (Json × Shorter ts) :=
  match ts with
  | .null :: rest => some (.null, ⟨rest, by simp⟩)
  | .bool b :: rest => some (.bool b, ⟨rest, by simp⟩)
  | .number natural? :: rest => some (.number natural?, ⟨rest, by simp⟩)
  | .string text? :: rest => some (.string text?, ⟨rest, by simp⟩)
  | .openBracket :: .closeBracket :: rest =>
    some (.array [], ⟨rest, by simp only [List.length_cons]; omega⟩)
  | .openBracket :: rest => do
    let (items, ⟨after, h⟩) ← items? rest
    return (.array items, ⟨after, by simp only [List.length_cons]; omega⟩)
  | .openBrace :: .closeBrace :: rest =>
    some (.object [], ⟨rest, by simp only [List.length_cons]; omega⟩)
  | .openBrace :: rest => do
    let (members, ⟨after, h⟩) ← members? rest
    return (.object members, ⟨after, by simp only [List.length_cons]; omega⟩)
  | _ => none
termination_by (ts.length, 0)

/-- Reads the items of an array, at least one, up to and with the closing bracket. -/
def items? (ts : List Token) : Option (List Json × Shorter ts) := do
  let (item, ⟨rest, h⟩) ← value? ts
  match rest, h with
  | .closeBracket :: after, h => some ([item], ⟨after, by simp at h; omega⟩)
  | .comma :: more, h => do
    let (items, ⟨after, h'⟩) ← items? more
    return (item :: items, ⟨after, by simp at h; omega⟩)
  | _, _ => none
termination_by (ts.length, 1)
decreasing_by all_goals simp_all [Prod.lex_def] <;> omega

/-- Reads the members of an object, at least one, up to and with the closing brace. -/
def members? (ts : List Token) : Option (List (Option String × Json) × Shorter ts) :=
  match ts with
  | .string key? :: .colon :: rest => do
    let (value, ⟨rest', h⟩) ← value? rest
    match rest', h with
    | .closeBrace :: after, h =>
      some ([(key?, value)], ⟨after, by simp at h ⊢; omega⟩)
    | .comma :: more, h => do
      let (members, ⟨after, h'⟩) ← members? more
      return ((key?, value) :: members, ⟨after, by simp at h ⊢; omega⟩)
    | _, _ => none
  | _ => none
termination_by (ts.length, 1)
decreasing_by all_goals simp_all [Prod.lex_def] <;> omega

end

/-- Reads a text that is exactly one JSON value. -/
def read? (text : String) : Option Json := do
  let ts ← Token.ofText? text.toList
  let (value, ⟨rest, _⟩) ← value? ts
  if rest.isEmpty then return value else none

end Json

end Reduct
