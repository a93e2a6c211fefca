import Reduct.Text.Position

/-!
# Faults of search patterns

What can be wrong with a search pattern, where, and how it is reported: the pattern, carets
under the places the fault is about, and the fault in words. A pattern of several lines is
shown with line numbers, between two rules.
-/

namespace Reduct.Regex

/-- A piece of a pattern, by the numbers of characters left where it starts and where it
ends. -/
structure Span where
  start : Nat
  stop : Nat
deriving Repr, DecidableEq

/-- The piece between two ends of a pattern. -/
def Span.between (cs rest : List Char) : Span := ⟨cs.length, rest.length⟩

/-- The first character of an end of a pattern. -/
def Span.first (cs : List Char) : Span := ⟨cs.length, cs.length - 1⟩

/-- The empty piece at the start of an end of a pattern. -/
def Span.front (cs : List Char) : Span := ⟨cs.length, cs.length⟩

/-- What is wrong with a pattern. -/
inductive Fault where
  | classEscape
  | classRange
  | classRangeEnd
  | classUnclosed
  | decimalTooLarge
  | hexEmpty
  | hexNoCharacter
  | hexDigit
  | escapeUnfinished
  | escapeUnknown
  | flagNegationDangling
  | flagTwice
  | flagNegationTwice
  | flagMissing
  | flagUnknown
  | nameTwice
  | nameEmpty
  | nameCharacter
  | nameUnclosed
  | groupUnclosed
  | groupUnopened
  | countRange
  | countMissing
  | countUnclosed
  | repetitionMissing
  | wordEdgeUnclosed
  | wordEdgeUnknown
  | wordEdgeUnfinished
  | propertyBackslash
  | propertyUnknown
  | propertyValueUnknown
  | backreference
  | lookAround
  | unicodeDisabled
  | invalidText
deriving Repr, DecidableEq

/-- The fault in words. -/
def Fault.message : Fault → String
  | .classEscape => "invalid escape sequence found in character class"
  | .classRange => "invalid character class range, the start must be <= the end"
  | .classRangeEnd => "invalid range boundary, must be a literal"
  | .classUnclosed => "unclosed character class"
  | .decimalTooLarge => "decimal literal invalid"
  | .hexEmpty => "hexadecimal literal empty"
  | .hexNoCharacter => "hexadecimal literal is not a Unicode scalar value"
  | .hexDigit => "invalid hexadecimal digit"
  | .escapeUnfinished => "incomplete escape sequence, reached end of pattern prematurely"
  | .escapeUnknown => "unrecognized escape sequence"
  | .flagNegationDangling => "dangling flag negation operator"
  | .flagTwice => "duplicate flag"
  | .flagNegationTwice => "flag negation operator repeated"
  | .flagMissing => "expected flag but got end of regex"
  | .flagUnknown => "unrecognized flag"
  | .nameTwice => "duplicate capture group name"
  | .nameEmpty => "empty capture group name"
  | .nameCharacter => "invalid capture group character"
  | .nameUnclosed => "unclosed capture group name"
  | .groupUnclosed => "unclosed group"
  | .groupUnopened => "unopened group"
  | .countRange => "invalid repetition count range, the start must be <= the end"
  | .countMissing => "repetition quantifier expects a valid decimal"
  | .countUnclosed => "unclosed counted repetition"
  | .repetitionMissing => "repetition operator missing expression"
  | .wordEdgeUnclosed =>
      "special word boundary assertion is either unclosed or contains an invalid character"
  | .wordEdgeUnknown =>
      "unrecognized special word boundary assertion, valid choices are: start, end, " ++
        "start-half or end-half"
  | .wordEdgeUnfinished =>
      "found either the beginning of a special word boundary or a bounded repetition on a " ++
        "\\b with an opening brace, but no closing brace"
  | .propertyBackslash => "invalid Unicode character class"
  | .propertyUnknown => "Unicode property not found"
  | .propertyValueUnknown => "Unicode property value not found"
  | .backreference => "backreferences are not supported"
  | .lookAround => "look-around, including look-ahead and look-behind, is not supported"
  | .unicodeDisabled => "Unicode not allowed here"
  | .invalidText => "pattern can match invalid UTF-8"

/-- Why a pattern cannot be searched for. -/
inductive Error where
  /-- A fault at a place, with an earlier place it has to do with. -/
  | malformed (fault : Fault) (place : Span) (earlier : Option Span)
  /-- The pattern would take too much room. -/
  | tooLarge
deriving Repr, DecidableEq

/-- The most room a pattern may take, in bytes. -/
def roomLimit : Nat := 10485760

/-! ## Reports -/

/-- The place of the character with so many characters left after and with it. -/
def placeAt (pattern : List Char) (left : Nat) : Text.Position :=
  (pattern.take (pattern.length - left)).foldl Text.Position.after .start

/-- A line of carets under pieces of one line, given by their columns, in order. `column` is
the column of the next character written. -/
def carets (column : Nat) : List (Nat × Nat) → List Char
  | [] => []
  | (start, stop) :: pieces =>
    let width := max 1 (stop - start)
    List.replicate (start - column) ' ' ++ List.replicate width '^' ++
      carets (max column start + width) pieces

/-- The columns of the pieces that lie in a line, in order. -/
def piecesIn (places : List (Text.Position × Text.Position)) (line : Nat) : List (Nat × Nat) :=
  let inLine := places.filter fun place => place.1.line = line ∧ place.2.line = line
  (inLine.map fun place => (place.1.column, place.2.column)).mergeSort fun a b =>
    decide (a.1 < b.1) || (a.1 == b.1 && decide (a.2 ≤ b.2))

/-- A number with blanks before it, to a width. -/
def padded (width n : Nat) : List Char :=
  let digits := (toString n).toList
  List.replicate (width - digits.length) ' ' ++ digits

/-- The lines of a pattern, each with the carets that belong under it. With one line there are
four blanks before it, and with several their numbers. -/
def annotated (pattern : List Char) (places : List (Text.Position × Text.Position)) :
    List (List Char) :=
  let all := Text.lines pattern
  -- A line feed at the end starts a line that is counted but not shown.
  let shown := if all.getLast? = some [] then all.dropLast else all
  let width := if all.length ≤ 1 then 0 else (toString all.length).length
  let lead (n : Nat) : List Char :=
    if width = 0 then [' ', ' ', ' ', ' '] else padded width n ++ [':', ' ']
  (shown.zipIdx 1).flatMap fun (line, n) =>
    let written := lead n ++ line
    match piecesIn places n with
    | [] => [written]
    | pieces => [written, List.replicate (lead n).length ' ' ++ carets 1 pieces]

/-- A line that tells of a piece which spans several lines. -/
def acrossLines (place : Text.Position × Text.Position) : String :=
  "on line " ++ toString place.1.line ++ " (column " ++ toString place.1.column ++
    ") through line " ++ toString place.2.line ++ " (column " ++
    toString (place.2.column - 1) ++ ")"

/-- The report on a fault. -/
def faultReport (pattern : List Char) (fault : Fault) (spans : List Span) : String :=
  let places := spans.map fun span => (placeAt pattern span.start, placeAt pattern span.stop)
  let shown := (annotated pattern places).map String.ofList
  let spread := places.filter fun place => place.1.line ≠ place.2.line
  let rule := String.ofList (List.replicate 79 '~')
  let body := if '\n' ∈ pattern then [rule] ++ shown ++ [rule] ++ spread.map acrossLines else shown
  "\n".intercalate (["regex parse error:"] ++ body ++ ["error: " ++ fault.message])

/-- The report on why a pattern cannot be searched for. -/
def Error.report (pattern : String) : Error → String
  | .malformed fault place earlier => faultReport pattern.toList fault (place :: earlier.toList)
  | .tooLarge => "Compiled regex exceeds size limit of " ++ toString roomLimit ++ " bytes."

end Reduct.Regex
