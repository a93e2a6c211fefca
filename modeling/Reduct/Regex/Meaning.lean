import Reduct.Regex.Basic
import Reduct.Regex.Escape
import Reduct.Regex.Property

/-!
# What a pattern as written means

Flags are taken through the tree in the order of the text: settings hold for the rest of their
group. A pattern without the Unicode flag can describe bytes that make no text; such parts are
at fault.
-/

namespace Reduct.Regex

/-- The flags in force at some place of a pattern. -/
structure Flags where
  ignoreCase : Bool := false
  manyLines : Bool := false
  dotAll : Bool := false
  swapGreed : Bool := false
  unicode : Bool := true
  carriageReturn : Bool := false

namespace Flags

/-- The flags with one turned on or off. -/
def set (f : Flags) (flag : Flag) (on : Bool) : Flags :=
  match flag with
  | .ignoreCase => { f with ignoreCase := on }
  | .manyLines => { f with manyLines := on }
  | .dotAll => { f with dotAll := on }
  | .swapGreed => { f with swapGreed := on }
  | .unicode => { f with unicode := on }
  | .carriageReturn => { f with carriageReturn := on }
  | .layout => f

/-- The flags after settings. -/
def after (f : Flags) (settings : Settings) : Flags :=
  settings.foldl (fun f setting => f.set setting.1 setting.2) f

/-- A class with the variants in case that the flags ask for. -/
def cased (f : Flags) (s : CharClass) : CharClass :=
  if f.ignoreCase then
    s.ignoringCase (if f.unicode then Text.caseVariants else Text.asciiCaseVariants)
  else s

end Flags

/-! ## Classes -/

/-- The class or its complement. The complement of an ASCII class among bytes holds bytes that
make no text. -/
def Flags.negated (f : Flags) (isNegated : Bool) (place : Span) (s : CharClass) :
    Except Error CharClass :=
  if isNegated then if f.unicode then .ok s.complement else fail .invalidText place
  else .ok s

/-- A character as written, outside a class. A byte beyond ASCII makes no text. -/
def Flags.char (f : Flags) (l : Literal) : Except Error Char :=
  if !f.unicode && l.isByte && l.char > '\x7f' then fail .invalidText l.span else .ok l.char

/-- A character as written in a class. A class of bytes has no place for others. -/
def Flags.classChar (f : Flags) (l : Literal) : Except Error Char := do
  let c ← f.char l
  if !f.unicode && c > '\x7f' then fail .unicodeDisabled l.span
  return c

/-- The characters of one class and another, put together by an operation. -/
def SetOperation.chars (left right : CharClass) : SetOperation → CharClass
  | .intersection => fun c => left c && right c
  | .difference => fun c => left c && !right c
  | .symmetricDifference => fun c => left c != right c

mutual

/-- The characters of a class as written. -/
def ClassTree.chars (f : Flags) : ClassTree → Except Error CharClass
  | .literal l => do return .single (← f.classChar l)
  | .range first last => do
    let low ← f.classChar first
    let high ← f.classChar last
    return .range low high
  | .letter kind isNegated place => f.negated isNegated place (kind.chars f.unicode)
  | .property property isNegated place => do
    if !f.unicode then fail .unicodeDisabled place
    match property.chars? with
    | .error fault => fail fault place
    | .ok s => f.negated isNegated place (f.cased s)
  | .named s isNegated place => f.negated isNegated place (f.cased s)
  | .union items => do return .union (← charsOfAll f items)
  | .combined op left right => do
    let left ← left.chars f
    let right ← right.chars f
    return op.chars (f.cased left) (f.cased right)
  | .bracketed body isNegated place => do
    let s ← body.chars f
    f.negated isNegated place (f.cased s)

/-- The characters of each class. -/
def charsOfAll (f : Flags) : List ClassTree → Except Error (List CharClass)
  | [] => .ok []
  | item :: items => do
    let s ← item.chars f
    return s :: (← charsOfAll f items)

end

/-! ## Patterns -/

/-- What a dot accepts. Among bytes it accepts some that make no text. -/
def Flags.dot (f : Flags) (place : Span) : Except Error CharClass :=
  if !f.unicode then fail .invalidText place
  else if f.dotAll then .ok fun _ => true
  else if f.carriageReturn then .ok fun c => c != '\r' && c != '\n'
  else .ok fun c => c != '\n'

/-- The assertion that an anchor stands for. -/
def Flags.assertion (f : Flags) : Anchor → Assertion
  | .lineStart => if f.manyLines then .lineStart f.carriageReturn else .textStart
  | .lineEnd => if f.manyLines then .lineEnd f.carriageReturn else .textEnd
  | .textStart => .textStart
  | .textEnd => .textEnd
  | .word edge => .word edge (LetterClass.word.chars f.unicode)

mutual

/-- What a tree means under the flags, and the flags that hold after it. -/
def Tree.meaning (f : Flags) : Tree → Except Error (Regex × Flags)
  | .literal l => do return (.one (f.cased (.single (← f.char l))), f)
  | .dot place => do return (.one (← f.dot place), f)
  | .anchor anchor => .ok (.check (f.assertion anchor), f)
  | .charClass chars => do return (.one (← chars.chars f), f)
  | .settings settings => .ok (.empty, f.after settings)
  | .group settings body => do return ((← body.meaning (f.after settings)).1, f)
  | .repeated body least most isGreedy => do
    let (body, f) ← body.meaning f
    return (body.rounds least most (isGreedy ^^ f.swapGreed), f)
  | .alternatives trees => alternatives f trees
  | .sequence trees => sequence f trees

/-- What alternatives mean; settings in one hold in the next. -/
def alternatives (f : Flags) : List Tree → Except Error (Regex × Flags)
  | [] => .ok (.empty, f)
  | [tree] => tree.meaning f
  | tree :: trees => do
    let (first, f) ← tree.meaning f
    let (others, f) ← alternatives f trees
    return (.either first others, f)

/-- What parts mean one after the other. -/
def sequence (f : Flags) : List Tree → Except Error (Regex × Flags)
  | [] => .ok (.empty, f)
  | [tree] => tree.meaning f
  | tree :: trees => do
    let (first, f) ← tree.meaning f
    let (others, f) ← sequence f trees
    return (.both first others, f)

end

end Reduct.Regex
