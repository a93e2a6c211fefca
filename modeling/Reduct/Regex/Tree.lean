import Reduct.Regex.CharClass
import Reduct.Regex.Fault

/-!
# Search patterns as written

The parts of a search pattern in the order in which they are written, before flags have a say
in what they mean. Places are kept where the meaning of a part can be at fault.
-/

namespace Reduct.Regex

/-- The flags that change what a pattern means. -/
inductive Flag where
  /-- Letters stand for their variants in case. -/
  | ignoreCase
  /-- Each line has a start and an end. -/
  | manyLines
  /-- A dot accepts line feeds. -/
  | dotAll
  /-- Repetitions prefer few rounds, and those with a question mark many. -/
  | swapGreed
  /-- Classes hold characters of all Unicode. -/
  | unicode
  /-- A carriage return ends a line too. -/
  | carriageReturn
  /-- White space and comments in the pattern are passed over. -/
  | layout
deriving Repr, DecidableEq

/-- The flag of a letter. -/
def Flag.ofLetter? : Char → Option Flag
  | 'i' => some .ignoreCase
  | 'm' => some .manyLines
  | 's' => some .dotAll
  | 'U' => some .swapGreed
  | 'u' => some .unicode
  | 'R' => some .carriageReturn
  | 'x' => some .layout
  | _ => none

/-- Flags turned on and off. -/
abbrev Settings := List (Flag × Bool)

/-- Where a word starts or ends. -/
inductive WordEdge where
  /-- A start or an end. -/
  | boundary
  /-- Neither a start nor an end. -/
  | inside
  | start
  | stop
  /-- Not after a word character. -/
  | startHalf
  /-- Not before a word character. -/
  | stopHalf
deriving Repr, DecidableEq

/-- An assertion about a place in the text. -/
inductive Anchor where
  | lineStart
  | lineEnd
  | textStart
  | textEnd
  | word (edge : WordEdge)
deriving Repr, DecidableEq

/-- A character as written. -/
structure Literal where
  char : Char
  /-- Is it written with two hexadecimal digits, which can also name a byte? -/
  isByte : Bool := false
  span : Span
deriving Repr, DecidableEq

/-- A property of characters, perhaps with a value. -/
structure Property where
  name : String
  value? : Option String := none
deriving Repr, DecidableEq

/-- The operations on two classes. -/
inductive SetOperation where
  | intersection
  | difference
  | symmetricDifference
deriving Repr, DecidableEq

/-- A class of characters as written. -/
inductive ClassTree where
  | literal (l : Literal)
  | range (first last : Literal)
  | letter (kind : LetterClass) (isNegated : Bool) (span : Span)
  | property (property : Property) (isNegated : Bool) (span : Span)
  /-- An ASCII class written by name. -/
  | named (chars : CharClass) (isNegated : Bool) (span : Span)
  | union (items : List ClassTree)
  | combined (op : SetOperation) (left right : ClassTree)
  | bracketed (body : ClassTree) (isNegated : Bool) (span : Span)

/-- A pattern as written. -/
inductive Tree where
  | literal (l : Literal)
  | dot (span : Span)
  | anchor (anchor : Anchor)
  | charClass (chars : ClassTree)
  /-- Settings for the rest of the group. -/
  | settings (settings : Settings)
  | group (settings : Settings) (body : Tree)
  | repeated (body : Tree) (least : Nat) (most : Option Nat) (isGreedy : Bool)
  | alternatives (trees : List Tree)
  | sequence (trees : List Tree)

/-- Can a repetition follow the part? Settings are nothing to repeat. -/
def Tree.isRepeatable : Tree → Bool
  | .settings _ => false
  | _ => true

end Reduct.Regex
