import Reduct.Text.Width

/-!
# Lines and columns

Diagnostics point into a source text by line and column, both counted from one, columns in
characters. A position is asked for by its byte offset.
-/

namespace Reduct.Text

/-- A place in a source text, line and column counted from one. -/
structure Position where
  line : Nat
  column : Nat
deriving Repr, DecidableEq

/-- The place of the first character. -/
def Position.start : Position := ⟨1, 1⟩

/-- The place after the character `c`. -/
def Position.after (p : Position) (c : Char) : Position :=
  if c = '\n' then ⟨p.line + 1, 1⟩ else ⟨p.line, p.column + 1⟩

/-- The place `offset` bytes after `p`, where `p` is the place of the first character given. An
offset inside a character counts that character, one past the end stops at the end. -/
def Position.advance (p : Position) (offset : Nat) : List Char → Position
  | [] => p
  | c :: cs => if offset = 0 then p else (p.after c).advance (offset - c.utf8Size) cs

/-- The place of a byte offset in a source text. -/
def position (source : String) (offset : Nat) : Position :=
  Position.start.advance offset source.toList

/-- The lines of a text, without the line feeds that end them; a carriage return just before
a line feed goes with it. -/
def lines : List Char → List (List Char)
  | [] => [[]]
  | '\n' :: cs => [] :: lines cs
  | '\r' :: '\n' :: cs => [] :: lines cs
  | c :: cs =>
    match lines cs with
    | [] => [[c]]
    | line :: rest => (c :: line) :: rest

/-- The `n`-th line of a text, counted from one; empty where there is none. -/
def lineAt (source : String) (n : Nat) : String :=
  String.ofList ((lines source.toList).getD (n - 1) [])

end Reduct.Text
