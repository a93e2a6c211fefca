import Reduct.Regex.Escape

/-!
# Reading search patterns

A pattern is read from left to right. The groups that are open are kept on a stack, each with
what was read around it; so are the classes that are open inside each other. A fault found on
the way ends the reading.
-/

namespace Reduct.Regex

/-! ## Classes -/

/-- A class that is open: what it started with, the operation under way, and the items since,
the last first. -/
structure OpenClass where
  isNegated : Bool
  opening : Span
  pending : Option (SetOperation × ClassTree) := none
  items : List ClassTree := []

namespace OpenClass

/-- What was read of the class. -/
def tree (c : OpenClass) : ClassTree :=
  let last := ClassTree.union c.items.reverse
  match c.pending with
  | none => last
  | some (op, left) => .combined op left last

/-- The class with one more item. -/
def push (c : OpenClass) (item : ClassTree) : OpenClass := { c with items := item :: c.items }

/-- The class with an operation between what was read and what comes. -/
def operator (c : OpenClass) (op : SetOperation) : OpenClass :=
  { c with pending := some (op, c.tree), items := [] }

end OpenClass

/-- Reads the hyphens that may start a class and stand for themselves. -/
def hyphens (skips : Bool) (start cs : List Char) :
    Except Error (List ClassTree × NotLonger cs) :=
  match cs with
  | [] => .ok ([], .all [])
  | c :: rest =>
    if c = '-' then
      match skip skips rest with
      | ⟨[], _⟩ => fail .classUnclosed (.front start)
      | ⟨d :: ds, h⟩ => do
        let (items, ⟨rest', h'⟩) ← hyphens skips start (d :: ds)
        return (.literal { char := c, span := .first cs } :: items,
          ⟨rest', Nat.le_succ_of_le (Nat.le_trans h' h)⟩)
    else .ok ([], .all (c :: rest))
termination_by cs.length
decreasing_by exact Nat.lt_succ_of_le h

/-- Reads the start of a class after its bracket: a caret if it is negated, then hyphens, or a
closing bracket that stands for itself. -/
def classOpening (skips : Bool) (start cs : List Char) :
    Except Error (OpenClass × NotLonger cs) := do
  let ⟨first, h⟩ := skip skips cs
  let ⟨isNegated, inner, h'⟩ : Bool × NotLonger first :=
    match first with
    | '^' :: rest =>
      let ⟨rest', h⟩ := skip skips rest
      (true, ⟨rest', by simp only [List.length_cons]; omega⟩)
    | first => (false, .all first)
  if inner.isEmpty then fail .classUnclosed (.between start [])
  let (items, ⟨rest, h''⟩) ← hyphens skips start inner
  match rest, h'', items with
  | ']' :: rest', h'', [] =>
    let ⟨after, h'''⟩ := skip skips rest'
    if after.isEmpty then fail .classUnclosed (.between start [])
    let bracket : ClassTree := .literal { char := ']', span := .first (']' :: rest') }
    return ({ isNegated, opening := .between start after, items := [bracket] },
      ⟨after, by simp only [List.length_cons] at h''; omega⟩)
  | rest, h'', items =>
    return ({ isNegated, opening := .between start rest, items := items.reverse },
      ⟨rest, by omega⟩)

/-- An ASCII class by name, after the bracket that opens it; `none` if there is none. -/
def namedItem? (start : List Char) : (cs : List Char) → Option (ClassTree × NotLonger cs)
  | ':' :: inner =>
    let isNegated := inner.head? == some '^'
    let name := if isNegated then inner.tail else inner
    match hRest : name.dropWhile (· != ':') with
    | ':' :: ']' :: after =>
      (namedClass? (String.ofList (name.takeWhile (· != ':')))).map fun chars =>
        (.named chars isNegated (.between start after), ⟨after, by
          have hName : name.length ≤ inner.length := by
            simp only [name]
            split
            · simp
            · exact Nat.le_refl _
          have hDrop := (List.dropWhile_sublist (· != ':') (l := name)).length_le
          rw [hRest] at hDrop
          simp only [List.length_cons] at *
          omega⟩)
    | _ => none
  | _ => none

/-- A character or an escape in a class. -/
def classPrimitive (skips : Bool) (c : Char) (cs : List Char) :
    Except Error (Primitive × Span × NotLonger cs) := do
  if c = '\\' then
    let (primitive, ⟨rest, h⟩) ← escape skips (c :: cs) cs
    return (primitive, .between (c :: cs) rest, ⟨rest, by omega⟩)
  let here := Span.first (c :: cs)
  return (.literal { char := c, span := here }, here, .all cs)

/-- A primitive as an item of a class. Assertions are none. -/
def Primitive.item (place : Span) : Primitive → Except Error ClassTree
  | .literal l => .ok (.literal l)
  | .charClass chars => .ok chars
  | .anchor _ _ => fail .classEscape place

/-- A primitive as an end of a range: only a character can be one. -/
def Primitive.rangeEnd (place : Span) : Primitive → Except Error Literal
  | .literal l => .ok l
  | _ => fail .classRangeEnd place

/-- The next character that is no layout, as far as a hyphen before it has to know. The start
of a comment is passed over, the comment itself is not. -/
def nextShown? (skips : Bool) (cs : List Char) : Option Char :=
  if skips then
    let afterMark :=
      match cs.dropWhile Text.isBlank with
      | '#' :: rest => rest.dropWhile Text.isBlank
      | rest => rest
    afterMark.head? <|> cs.head?
  else cs.head?

/-- Reads an item of a class that starts with `c`, or a range. `unclosed` is the fault of a
pattern that ends here. -/
def classItem (skips : Bool) (unclosed : Error) (c : Char) (cs : List Char) :
    Except Error (ClassTree × NotLonger cs) := do
  let (first, firstPlace, ⟨rest, h⟩) ← classPrimitive skips c cs
  match skip skips rest with
  | ⟨[], _⟩ => .error unclosed
  | ⟨d :: inner, h'⟩ =>
    let next := nextShown? skips inner
    if d ≠ '-' ∨ next = some ']' ∨ next = some '-' then
      return (← first.item firstPlace, ⟨d :: inner, by omega⟩)
    match skip skips inner with
    | ⟨[], _⟩ => .error unclosed
    | ⟨e :: inner', h''⟩ =>
      let (last, lastPlace, ⟨after, h'''⟩) ← classPrimitive skips e inner'
      let low ← first.rangeEnd firstPlace
      let high ← last.rangeEnd lastPlace
      if high.char < low.char then fail .classRange ⟨firstPlace.start, lastPlace.stop⟩
      return (.range low high, ⟨after, by simp only [List.length_cons] at *; omega⟩)

/-- The operation that a character written twice stands for between classes. -/
def setOperationOf? : Char → Option SetOperation
  | '&' => some .intersection
  | '-' => some .difference
  | '~' => some .symmetricDifference
  | _ => none

/-- Reads on in the innermost open class, which lies in the others, up to the end of the
outermost. `start` begins with the bracket of each open class, the innermost first. -/
def classBody (skips : Bool) (current : OpenClass) (start : List Char)
    (around : List (OpenClass × List Char)) (cs : List Char) :
    Except Error (ClassTree × Shorter cs) :=
  let unclosed : Error := .malformed .classUnclosed current.opening none
  match skip skips cs with
  | ⟨[], _⟩ => .error unclosed
  | ⟨c :: rest, h⟩ => do
    if c = '[' then
      match namedItem? (c :: rest) rest with
      | some (item, ⟨rest', h'⟩) =>
        let (tree, ⟨after, h''⟩) ← classBody skips (current.push item) start around rest'
        return (tree, ⟨after, by simp only [List.length_cons] at *; omega⟩)
      | none =>
        let (inner, ⟨rest', h'⟩) ← classOpening skips (c :: rest) rest
        let (tree, ⟨after, h''⟩) ←
          classBody skips inner (c :: rest) ((current, start) :: around) rest'
        return (tree, ⟨after, by simp only [List.length_cons] at *; omega⟩)
    if c = ']' then
      let closed : ClassTree := .bracketed current.tree current.isNegated (.between start rest)
      match around with
      | [] => return (closed, ⟨rest, by simp only [List.length_cons] at *; omega⟩)
      | (outer, outerStart) :: around =>
        let (tree, ⟨after, h'⟩) ← classBody skips (outer.push closed) outerStart around rest
        return (tree, ⟨after, by simp only [List.length_cons] at *; omega⟩)
    match rest, h, setOperationOf? c with
    | d :: rest', h, some op =>
      if d = c then
        let (tree, ⟨after, h'⟩) ← classBody skips (current.operator op) start around rest'
        return (tree, ⟨after, by simp only [List.length_cons] at *; omega⟩)
      let (item, ⟨rest'', h'⟩) ← classItem skips unclosed c (d :: rest')
      let (tree, ⟨after, h''⟩) ← classBody skips (current.push item) start around rest''
      return (tree, ⟨after, by simp only [List.length_cons] at *; omega⟩)
    | rest, h, _ =>
      let (item, ⟨rest', h'⟩) ← classItem skips unclosed c rest
      let (tree, ⟨after, h''⟩) ← classBody skips (current.push item) start around rest'
      return (tree, ⟨after, by simp only [List.length_cons] at *; omega⟩)
termination_by cs.length
decreasing_by all_goals simp only [List.length_cons] at *; omega

/-- Reads a class after its bracket; `start` begins with the bracket. -/
def readClass (skips : Bool) (start cs : List Char) :
    Except Error (ClassTree × Shorter cs) := do
  let (opened, ⟨rest, h⟩) ← classOpening skips start cs
  let (tree, ⟨after, h'⟩) ← classBody skips opened start [] rest
  return (tree, ⟨after, by omega⟩)

/-! ## Repetitions -/

/-- Reads the number of a repetition, with white space around it. A number that is at fault is
read all the same. -/
def repetitionNumber (skips : Bool) (cs : List Char) : Except Error Nat × NotLonger cs :=
  let first := cs.dropWhile Text.isBlank
  have hFirst : first.length ≤ cs.length :=
    (List.dropWhile_sublist Text.isBlank (l := cs)).length_le
  let (ds, ⟨rest, h⟩) := run skips Char.isDigit first
  let (_, ⟨after, h'⟩) := run skips Text.isBlank rest
  let place : Span := .between first rest
  let value := ds.foldl (fun n d => 10 * n + (d.toNat - '0'.toNat)) 0
  let read : Except Error Nat :=
    if ds.isEmpty then fail .countMissing place
    else if value < UInt32.size then .ok value
    else fail .decimalTooLarge place
  (read, ⟨after, Nat.le_trans h' (Nat.le_trans h hFirst)⟩)

/-- How often a part is repeated, and whether many rounds are preferred. -/
structure Repetition where
  least : Nat
  most : Option Nat
  isGreedy : Bool

/-- Reads the numbers of a repetition, up to where the closing brace has to stand. -/
def repetitionNumbers (skips : Bool) (start cs : List Char) :
    Except Error (Nat × Option Nat × NotLonger cs) :=
  let unclosed : Except Error (Nat × Option Nat × NotLonger cs) :=
    fail .countUnclosed (.between start [])
  match skip skips cs with
  | ⟨[], _⟩ => unclosed
  | ⟨first, h⟩ =>
    let (least, ⟨rest, h'⟩) := repetitionNumber skips first
    match rest, h' with
    | [], _ => unclosed
    | ',' :: inner, h' =>
      match skip skips inner with
      | ⟨[], _⟩ => unclosed
      | ⟨'}' :: after, h''⟩ => do
        return (← least, none, ⟨'}' :: after, by simp only [List.length_cons] at *; omega⟩)
      | ⟨second, h''⟩ => do
        let least ← least
        let (most, ⟨after, h'''⟩) := repetitionNumber skips second
        return (least, some (← most), ⟨after, by simp only [List.length_cons] at *; omega⟩)
    | rest, h' => do
      let least ← least
      return (least, some least, ⟨rest, by omega⟩)

/-- Does a question mark follow, by which few rounds are preferred? -/
def greed (cs : List Char) : Bool × NotLonger cs :=
  match cs with
  | '?' :: rest => (false, ⟨rest, Nat.le_succ _⟩)
  | cs => (true, .all cs)

/-- Reads a counted repetition after its brace; `start` begins with the brace. -/
def countedRepetition (skips : Bool) (start cs : List Char) :
    Except Error (Repetition × NotLonger cs) := do
  let (least, most, ⟨rest, h⟩) ← repetitionNumbers skips start cs
  match rest, h with
  | '}' :: inner, h =>
    let ⟨inner', h'⟩ := skip skips inner
    let (isGreedy, ⟨after, h''⟩) := greed inner'
    if most.any (· < least) then fail .countRange (.between start after)
    return (⟨least, most, isGreedy⟩, ⟨after, by simp only [List.length_cons] at *; omega⟩)
  | rest, _ => fail .countUnclosed (.between start rest)

/-- The numbers of rounds that a sign stands for. -/
def repetitionSign? : Char → Option (Nat × Option Nat)
  | '?' => some (0, some 1)
  | '*' => some (0, none)
  | '+' => some (1, none)
  | _ => none

/-! ## Groups -/

/-- Reads flags up to a colon or a closing parenthesis, and tells which of them it was. The
items read so far are flags and signs for turning them off. -/
def flagItems (items : List (Option Flag × Span)) :
    (cs : List Char) → Except Error (List (Option Flag) × Char × Shorter cs)
  | [] => fail .flagMissing (.front [])
  | c :: rest => do
    if c = ':' ∨ c = ')' then
      match items.getLast? with
      | some (none, place) => fail .flagNegationDangling place
      | _ => return (items.map Prod.fst, c, .tail c rest)
    let here := Span.first (c :: rest)
    let item ← if c = '-' then pure none else
      match Flag.ofLetter? c with
      | some flag => pure (some flag)
      | none => fail .flagUnknown here
    match items.find? fun earlier => earlier.1 == item with
    | some (_, earlier) =>
      let fault := if item.isNone then Fault.flagNegationTwice else .flagTwice
      throw (.malformed fault here (some earlier))
    | none =>
      let (items, close, ⟨after, h⟩) ← flagItems (items ++ [(item, here)]) rest
      return (items, close, ⟨after, by simp only [List.length_cons]; omega⟩)

/-- The settings that flag items stand for: flags before the sign are on, those after it off. -/
def settingsOf (items : List (Option Flag)) : Settings :=
  let on := items.takeWhile Option.isSome
  let off := items.dropWhile Option.isSome
  (on.filterMap id).map (·, true) ++ (off.filterMap id).map (·, false)

/-- Can the character stand in the name of a group? -/
def isNameChar (isFirst : Bool) (c : Char) : Bool :=
  c == '_' ||
    (if isFirst then Text.isWord c && !Text.isDecimalDigit c
    else c == '.' || c == '[' || c == ']' || Text.isWord c)

/-- Reads the name of a group up to its closing bracket. -/
def nameChars (isFirst : Bool) :
    (cs : List Char) → Except Error (List Char × Shorter cs)
  | [] => fail .nameUnclosed (.front [])
  | c :: rest => do
    if c = '>' then return ([], .tail c rest)
    if !isNameChar isFirst c then fail .nameCharacter (.first (c :: rest))
    let (name, ⟨after, h⟩) ← nameChars false rest
    return (c :: name, ⟨after, by simp only [List.length_cons]; omega⟩)

/-- The names of groups, each with its place. -/
abbrev Names := List (String × Span)

/-- Reads the name of a group, which no other group may have. -/
def groupName (names : Names) (cs : List Char) : Except Error (Names × Shorter cs) := do
  let (name, ⟨rest, h⟩) ← nameChars true cs
  if name.isEmpty then fail .nameEmpty (.front cs)
  let place : Span := ⟨cs.length, rest.length + 1⟩
  let name := String.ofList name
  match names.lookup name with
  | some earlier => throw (.malformed .nameTwice place (some earlier))
  | none => return ((name, place) :: names, ⟨rest, h⟩)

/-- What an opening parenthesis starts. -/
inductive Opening where
  /-- Settings for the rest of the group around. -/
  | settings (settings : Settings)
  | group (settings : Settings)

/-- The texts after a parenthesis that would look ahead or behind. -/
def lookAroundTexts : List (List Char) := [['?', '='], ['?', '!'], ['?', '<', '='], ['?', '<', '!']]

/-- Reads what stands between an opening parenthesis and the body of the group. -/
def groupOpening (skips : Bool) (names : Names) (start cs : List Char) :
    Except Error (Opening × Names × NotLonger cs) := do
  let ⟨inner, h⟩ := skip skips cs
  if let some text := lookAroundTexts.find? fun text => text.isPrefixOf inner then
    fail .lookAround (.between start (inner.drop text.length))
  match inner, h with
  | '?' :: 'P' :: '<' :: rest, h =>
    let (names, ⟨after, h'⟩) ← groupName names rest
    return (.group [], names, ⟨after, by simp only [List.length_cons] at *; omega⟩)
  | '?' :: '<' :: rest, h =>
    let (names, ⟨after, h'⟩) ← groupName names rest
    return (.group [], names, ⟨after, by simp only [List.length_cons] at *; omega⟩)
  | '?' :: rest, h =>
    if rest.isEmpty then fail .groupUnclosed (.first start)
    let (items, close, ⟨after, h'⟩) ← flagItems [] rest
    let left : NotLonger cs := ⟨after, by simp only [List.length_cons] at *; omega⟩
    if close = ')' then
      if items.isEmpty then fail .repetitionMissing (.front inner)
      return (.settings (settingsOf items), names, left)
    return (.group (settingsOf items), names, left)
  | inner, h => return (.group [], names, ⟨inner, h⟩)

/-! ## The whole pattern -/

/-- What was read inside a group: the alternatives before the last, and the parts of the last,
the newest first. -/
structure Level where
  alternatives : List Tree := []
  parts : List Tree := []

/-- What was read as one tree. -/
def Level.tree (l : Level) : Tree :=
  let last := Tree.sequence l.parts.reverse
  if l.alternatives.isEmpty then last else .alternatives (last :: l.alternatives).reverse

/-- The level with one more part. -/
def Level.push (l : Level) (part : Tree) : Level := { l with parts := part :: l.parts }

/-- A group that is open. -/
structure OpenGroup where
  outer : Level
  settings : Settings
  opening : Span
  /-- Was layout passed over around the group? -/
  skipped : Bool

/-- What was read of a pattern so far. -/
structure Reading where
  level : Level := {}
  groups : List OpenGroup := []
  skips : Bool := false
  names : Names := []

namespace Reading

/-- Has the setting for layout a say? -/
def skipsAfter (r : Reading) (settings : Settings) : Bool :=
  (settings.lookup .layout).getD r.skips

/-- The reading with one more part. -/
def push (r : Reading) (part : Tree) : Reading := { r with level := r.level.push part }

/-- The reading with the last part repeated. -/
def repeatLast (r : Reading) (times : Repetition) : Reading :=
  match r.level.parts with
  | [] => r
  | last :: parts =>
    let part := Tree.repeated last times.least times.most times.isGreedy
    { r with level := { r.level with parts := part :: parts } }

/-- Is there a part to repeat? -/
def canRepeat (r : Reading) : Bool := r.level.parts.head?.any Tree.isRepeatable

/-- The reading after a closing parenthesis; `none` if no group is open. -/
def close? (r : Reading) : Option Reading :=
  match r.groups with
  | [] => none
  | g :: groups =>
    some { r with
      level := g.outer.push (.group g.settings r.level.tree)
      groups
      skips := g.skipped }

/-- The reading after what an opening parenthesis starts. -/
def opened (r : Reading) (place : Span) : Opening → Reading
  | .settings settings =>
    { r with level := r.level.push (.settings settings), skips := r.skipsAfter settings }
  | .group settings =>
    { r with
      level := {}
      groups := ⟨r.level, settings, place, r.skips⟩ :: r.groups
      skips := r.skipsAfter settings }

/-- Reads one part that starts with `c`. -/
def step (r : Reading) (c : Char) (cs : List Char) :
    Except Error (Reading × NotLonger cs) := do
  let here := c :: cs
  let stay : NotLonger cs := .all cs
  if c = '(' then
    let (opening, names, rest) ← groupOpening r.skips r.names here cs
    return ({ r with names }.opened (.first here) opening, rest)
  if c = ')' then
    match r.close? with
    | some r => return (r, stay)
    | none => fail .groupUnopened (.first here)
  if c = '|' then
    let level : Level := { alternatives := .sequence r.level.parts.reverse :: r.level.alternatives }
    return ({ r with level }, stay)
  if c = '[' then
    let (chars, ⟨rest, h⟩) ← readClass r.skips here cs
    return (r.push (.charClass chars), ⟨rest, Nat.le_of_lt h⟩)
  if let some (least, most) := repetitionSign? c then
    if !r.canRepeat then fail .repetitionMissing (.front here)
    let (isGreedy, rest) := greed cs
    return (r.repeatLast ⟨least, most, isGreedy⟩, rest)
  if c = '{' then
    if !r.canRepeat then fail .repetitionMissing (.front here)
    let (times, rest) ← countedRepetition r.skips here cs
    return (r.repeatLast times, rest)
  if c = '\\' then
    let (primitive, ⟨rest, h⟩) ← escape r.skips here cs
    let part : Tree :=
      match primitive with
      | .literal l => .literal l
      | .anchor anchor _ => .anchor anchor
      | .charClass chars => .charClass chars
    return (r.push part, ⟨rest, Nat.le_of_lt h⟩)
  if c = '.' then return (r.push (.dot (.first here)), stay)
  if c = '^' then return (r.push (.anchor .lineStart), stay)
  if c = '$' then return (r.push (.anchor .lineEnd), stay)
  return (r.push (.literal { char := c, span := .first here }), stay)

/-- Reads on to the end of the pattern. -/
def finish (r : Reading) (cs : List Char) : Except Error Tree :=
  match skip r.skips cs with
  | ⟨[], _⟩ =>
    match r.groups with
    | [] => .ok r.level.tree
    | g :: _ => fail .groupUnclosed g.opening
  | ⟨c :: rest, _⟩ => do
    let (r, ⟨rest', _⟩) ← r.step c rest
    r.finish rest'
termination_by cs.length
decreasing_by simp only [List.length_cons] at *; omega

end Reading

/-- Reads a pattern. -/
def read (pattern : List Char) : Except Error Tree := Reading.finish {} pattern

end Reduct.Regex
