import Reduct.Text.Category.Letter
import Reduct.Text.Category.Mark
import Reduct.Text.Category.Number
import Reduct.Text.Category.Punctuation
import Reduct.Text.Category.Separator
import Reduct.Text.Category.Symbol
import Reduct.Text.DecimalDigit

/-!
# General categories

Each character that is assigned belongs to one category (General_Category). Code points that
are no characters, the surrogates, are left out.
-/

namespace Reduct.Text

/-- The categories of characters. -/
inductive Category where
  | capital
  | smallLetter
  | titleLetter
  | modifierLetter
  | otherLetter
  | nonspacingMark
  | spacingMark
  | enclosingMark
  | decimalDigit
  | letterNumber
  | otherNumber
  | connector
  | dash
  | openingBracket
  | closingBracket
  | initialQuote
  | finalQuote
  | otherPunctuation
  | mathSymbol
  | currencySymbol
  | modifierSymbol
  | otherSymbol
  | space
  | lineSeparator
  | paragraphSeparator
  | control
  | format
  | privateUse
deriving Repr, DecidableEq

namespace Category

/-- The characters of a category. -/
def has (c : Char) : Category → Bool
  | .capital => inRanges capitalRanges c || inTurns capitalTurns c
  | .smallLetter => inRanges smallRanges c || inTurns smallTurns c
  | .titleLetter => inRanges titleRanges c
  | .modifierLetter => inRanges modifierLetterRanges c
  | .otherLetter => inRanges otherLetterRanges c
  | .nonspacingMark => inRanges nonspacingMarkRanges c
  | .spacingMark => inRanges spacingMarkRanges c
  | .enclosingMark => inRanges enclosingMarkRanges c
  | .decimalDigit => isDecimalDigit c
  | .letterNumber => inRanges letterNumberRanges c
  | .otherNumber => inRanges otherNumberRanges c
  | .connector => inRanges connectorRanges c
  | .dash => inRanges dashRanges c
  | .openingBracket => inRanges openingRanges c
  | .closingBracket => inRanges closingRanges c
  | .initialQuote => inRanges initialQuoteRanges c
  | .finalQuote => inRanges finalQuoteRanges c
  | .otherPunctuation => inRanges otherPunctuationRanges c
  | .mathSymbol => inRanges mathSymbolRanges c
  | .currencySymbol => inRanges currencySymbolRanges c
  | .modifierSymbol => inRanges modifierSymbolRanges c
  | .otherSymbol => inRanges otherSymbolRanges c
  | .space => inRanges spaceRanges c
  | .lineSeparator => c == '\u2028'
  | .paragraphSeparator => c == '\u2029'
  | .control => c ≤ '\x1f' || ('\x7f' ≤ c && c ≤ '\u009f')
  | .format => inRanges formatRanges c
  | .privateUse => inRanges privateUseRanges c

/-- The categories of letters that have case. -/
def casedLetters : List Category := [.capital, .smallLetter, .titleLetter]

/-- The categories of letters. -/
def letters : List Category := casedLetters ++ [.modifierLetter, .otherLetter]

/-- The categories of marks. -/
def marks : List Category := [.nonspacingMark, .spacingMark, .enclosingMark]

/-- The categories of numbers. -/
def numbers : List Category := [.decimalDigit, .letterNumber, .otherNumber]

/-- The categories of punctuation. -/
def punctuation : List Category :=
  [.connector, .dash, .openingBracket, .closingBracket, .initialQuote, .finalQuote,
   .otherPunctuation]

/-- The categories of symbols. -/
def symbols : List Category := [.mathSymbol, .currencySymbol, .modifierSymbol, .otherSymbol]

/-- The categories of separators. -/
def separators : List Category := [.space, .lineSeparator, .paragraphSeparator]

/-- All categories. -/
def all : List Category :=
  letters ++ marks ++ numbers ++ punctuation ++ symbols ++ separators ++
    [.control, .format, .privateUse]

end Category

/-- Does the character belong to one of the categories? -/
def isOneOf (categories : List Category) (c : Char) : Bool :=
  categories.any fun category => category.has c

/-- Is the code point assigned to a character, or set aside for private use? -/
def isAssigned (c : Char) : Bool := isOneOf Category.all c

end Reduct.Text
