import Reduct.Regex.Tree
import Reduct.Rest
import Reduct.Text.Blank

/-!
# Escapes in search patterns

How a pattern is read below the level of groups and classes: the layout that may be passed
over, and what a backslash makes of the characters after it.
-/

namespace Reduct.Regex

/-- A fault at a place. -/
def fail {α : Type} (fault : Fault) (place : Span) : Except Error α :=
  .error (.malformed fault place none)

/-! ## Layout -/

mutual

/-- The pattern from the first character that is no layout. -/
def dropLayout : List Char → List Char
  | [] => []
  | c :: cs =>
    if Text.isBlank c then dropLayout cs else if c = '#' then dropComment cs else c :: cs

/-- The pattern after a comment and the layout that follows it. -/
def dropComment : List Char → List Char
  | [] => []
  | c :: cs => if c = '\n' then dropLayout cs else dropComment cs

end

theorem length_dropLayout_le (cs : List Char) :
    (dropLayout cs).length ≤ cs.length ∧ (dropComment cs).length ≤ cs.length := by
  induction cs with
  | nil => simp [dropLayout, dropComment]
  | cons c cs ih =>
    constructor
    · rw [dropLayout]
      repeat' split
      all_goals simp only [List.length_cons]; omega
    · rw [dropComment]
      split
      all_goals simp only [List.length_cons]; omega

/-- Passes over layout, where that is on. -/
def skip (skips : Bool) (cs : List Char) : NotLonger cs :=
  if skips then ⟨dropLayout cs, (length_dropLayout_le cs).1⟩ else .all cs

/-- Reads characters of a kind, and passes over layout after each. -/
def run (skips : Bool) (accepts : Char → Bool) (cs : List Char) : List Char × NotLonger cs :=
  match cs with
  | [] => ([], .all [])
  | c :: rest =>
    if accepts c then
      let ⟨rest', h⟩ := skip skips rest
      let (taken, ⟨rest'', h'⟩) := run skips accepts rest'
      (c :: taken, ⟨rest'', by simp only [List.length_cons]; omega⟩)
    else ([], .all (c :: rest))
termination_by cs.length
decreasing_by simp only [List.length_cons]; omega

/-! ## Numbers -/

/-- Reads so many hexadecimal digits after those with a value so far. -/
def hexDigits (skips : Bool) :
    (count value : Nat) → (cs : List Char) → Except Error (Nat × NotLonger cs)
  | 0, value, cs => .ok (value, .all cs)
  | _ + 1, _, [] => fail .escapeUnfinished (.front [])
  | count + 1, value, c :: cs =>
    match Text.hexValue? c with
    | none => fail .hexDigit (.first (c :: cs))
    | some digit => do
      let ⟨rest, h⟩ := skip skips cs
      let (value, ⟨rest', h'⟩) ← hexDigits skips count (16 * value + digit) rest
      return (value, ⟨rest', by simp only [List.length_cons]; omega⟩)

/-- Reads up to a closing brace. What is read ends where the brace stands; each character has
to be accepted, and `unfinished` is where a missing brace is reported. -/
def upToBrace (skips : Bool) (accepts : Char → Bool) (unfinished : Span) (cs : List Char) :
    Except Error (List Char × Shorter cs) :=
  match skip skips cs with
  | ⟨[], _⟩ => fail .escapeUnfinished unfinished
  | ⟨c :: rest, h⟩ =>
    if c = '}' then .ok ([], ⟨rest, by simp only [List.length_cons] at h; omega⟩)
    else if accepts c then do
      let (name, ⟨rest', h'⟩) ← upToBrace skips accepts unfinished rest
      return (c :: name, ⟨rest', by simp only [List.length_cons] at h; omega⟩)
    else fail .hexDigit (.first (c :: rest))
termination_by cs.length
decreasing_by simp only [List.length_cons] at h; omega

/-- The value of hexadecimal digits. -/
def hexNumber (ds : List Char) : Nat :=
  ds.foldl (fun n d => 16 * n + (Text.hexValue? d).getD 0) 0

/-- Reads a character named by its code point, after the letter that says how many digits there
are without braces. The literal spans from `start` on. -/
def codePoint (skips : Bool) (digits : Nat) (start cs : List Char) :
    Except Error (Literal × NotLonger cs) :=
  match skip skips cs with
  | ⟨[], _⟩ => fail .escapeUnfinished (.front [])
  | ⟨c :: inner, h⟩ => do
    let here := c :: inner
    if c = '{' then
      let (ds, ⟨rest, h'⟩) ←
        upToBrace skips (fun c => (Text.hexValue? c).isSome) (.between here []) inner
      let ⟨after, h''⟩ := skip skips rest
      if ds.isEmpty then fail .hexEmpty (.between here after)
      match Text.ofCodePoint? (hexNumber ds) with
      | none => fail .hexNoCharacter ⟨inner.length, rest.length + 1⟩
      | some char =>
        return ({ char, span := .between start after },
          ⟨after, Nat.le_trans h'' (Nat.le_trans (Nat.le_of_lt h') (Nat.le_of_succ_le h))⟩)
    else
      let (value, ⟨rest, h'⟩) ← hexDigits skips digits 0 here
      match Text.ofCodePoint? value with
      | none => fail .hexNoCharacter (.between here rest)
      | some char =>
        return ({ char, isByte := digits == 2, span := .between start rest },
          ⟨rest, Nat.le_trans h' h⟩)

/-! ## Properties -/

/-- Where a text occurs in another, what comes before it and what after. -/
def cutAt? (text : List Char) : List Char → Option (List Char × List Char)
  | [] => none
  | c :: cs =>
    if text.isPrefixOf (c :: cs) then some ([], (c :: cs).drop text.length)
    else (cutAt? text cs).map fun (before, after) => (c :: before, after)

/-- The property that braces name: a name alone, or a name and a value with one of three signs
between them, all of which say the same. -/
def propertyOf (name : List Char) : Property :=
  let parts? := cutAt? ['!', '='] name <|> cutAt? [':'] name <|> cutAt? ['='] name
  match parts? with
  | some (before, after) =>
    { name := String.ofList before, value? := some (String.ofList after) }
  | none => { name := String.ofList name }

/-- Reads a property after its letter: one character, or a name in braces. -/
def propertyClass (skips isNegated : Bool) (start cs : List Char) :
    Except Error (ClassTree × NotLonger cs) :=
  match skip skips cs with
  | ⟨[], _⟩ => fail .escapeUnfinished (.front [])
  | ⟨c :: inner, h⟩ => do
    if c = '{' then
      let (name, ⟨rest, h'⟩) ← upToBrace skips (fun _ => true) (.front []) inner
      return (.property (propertyOf name) isNegated (.between start rest),
        ⟨rest, by simp only [List.length_cons] at h; omega⟩)
    else if c = '\\' then fail .propertyBackslash (.first (c :: inner))
    else
      let ⟨rest, h'⟩ := skip skips inner
      return (.property { name := String.singleton c } isNegated (.between start rest),
        ⟨rest, by simp only [List.length_cons] at h; omega⟩)

/-! ## Edges of words -/

/-- Can the character stand in the name of an edge? -/
def isEdgeChar (c : Char) : Bool := c.isAlpha || c == '-'

/-- The edge of a name. -/
def edgeOfName? : String → Option WordEdge
  | "start" => some .start
  | "end" => some .stop
  | "start-half" => some .startHalf
  | "end-half" => some .stopHalf
  | _ => none

/-- Reads the name in braces that may follow the escape for an edge of a word. Braces that do
not hold a name are a repetition, and left alone. -/
def namedEdge (skips : Bool) (start cs : List Char) :
    Except Error (Option WordEdge × NotLonger cs) :=
  match cs with
  | '{' :: inner =>
    match skip skips inner with
    | ⟨[], _⟩ => fail .wordEdgeUnfinished (.between start [])
    | ⟨c :: rest, h⟩ =>
      if isEdgeChar c then
        let (name, ⟨after, h'⟩) := run skips isEdgeChar (c :: rest)
        match after, h' with
        | '}' :: after, h' =>
          match edgeOfName? (String.ofList name) with
          | some edge =>
            .ok (some edge, ⟨after, by simp only [List.length_cons] at *; omega⟩)
          | none => fail .wordEdgeUnknown (.between (c :: rest) ('}' :: after))
        | after, _ => fail .wordEdgeUnclosed (.between ('{' :: inner) after)
      else .ok (none, .all ('{' :: inner))
  | cs => .ok (none, .all cs)

/-! ## All escapes -/

/-- What one character or one escape stands for. -/
inductive Primitive where
  | literal (l : Literal)
  | anchor (anchor : Anchor) (span : Span)
  | charClass (chars : ClassTree)

/-- The characters that mean something in a pattern. -/
def metaChars : List Char :=
  ['\\', '.', '+', '*', '?', '(', ')', '|', '[', ']', '\x7b', '\x7d', '^', '$', '#', '&', '-',
   '~']

/-- Does the character stand for itself after a backslash? Letters and digits do not, nor do
the two brackets that stand for edges of words. -/
def isPlainEscape (c : Char) : Bool :=
  metaChars.contains c || (c ≤ '\x7f' && !c.isAlphanum && c != '<' && c != '>')

/-- The control character that a letter stands for after a backslash. -/
def controlOf? : Char → Option Char
  | 'a' => some '\x07'
  | 'f' => some '\x0c'
  | 't' => some '\t'
  | 'n' => some '\n'
  | 'r' => some '\r'
  | 'v' => some '\x0b'
  | _ => none

/-- The assertion that a character stands for after a backslash. -/
def anchorOf? : Char → Option Anchor
  | 'A' => some .textStart
  | 'z' => some .textEnd
  | 'B' => some (.word .inside)
  | '<' => some (.word .start)
  | '>' => some (.word .stop)
  | _ => none

/-- The class that a letter stands for after a backslash; a capital stands for all others. -/
def letterClassOf? : Char → Option (LetterClass × Bool)
  | 'd' => some (.digit, false)
  | 'D' => some (.digit, true)
  | 's' => some (.blank, false)
  | 'S' => some (.blank, true)
  | 'w' => some (.word, false)
  | 'W' => some (.word, true)
  | _ => none

/-- How many hexadecimal digits follow a letter after a backslash. -/
def hexCountOf? : Char → Option Nat
  | 'x' => some 2
  | 'u' => some 4
  | 'U' => some 8
  | _ => none

/-- Reads what follows a backslash; `start` begins with the backslash. -/
def escape (skips : Bool) (start cs : List Char) : Except Error (Primitive × Shorter cs) :=
  match cs with
  | [] => fail .escapeUnfinished (.between start [])
  | c :: rest => do
    let here : Span := .between start rest
    let after : Shorter (c :: rest) := .tail c rest
    if c.isDigit then fail .backreference here
    if let some count := hexCountOf? c then
      let (l, ⟨rest', h⟩) ← codePoint skips count start rest
      return (.literal l, ⟨rest', by simp only [List.length_cons]; omega⟩)
    if c = 'p' ∨ c = 'P' then
      let (chars, ⟨rest', h⟩) ← propertyClass skips (c == 'P') start rest
      return (.charClass chars, ⟨rest', by simp only [List.length_cons]; omega⟩)
    if let some (kind, isNegated) := letterClassOf? c then
      return (.charClass (.letter kind isNegated here), after)
    if isPlainEscape c then return (.literal { char := c, span := here }, after)
    if let some control := controlOf? c then
      return (.literal { char := control, span := here }, after)
    if let some anchor := anchorOf? c then return (.anchor anchor here, after)
    if c = 'b' then
      let (edge?, ⟨rest', h⟩) ← namedEdge skips start rest
      return (.anchor (.word (edge?.getD .boundary)) (.between start rest'),
        ⟨rest', by simp only [List.length_cons]; omega⟩)
    fail .escapeUnknown here

end Reduct.Regex
