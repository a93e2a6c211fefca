import Reduct.Regex.Tree
import Reduct.Text.Alphabetic
import Reduct.Text.Emoji
import Reduct.Text.Script

/-!
# Properties in search patterns

The properties that a pattern can name: general categories, scripts, and some that hold or do
not. Upper and lower case, blanks, hyphens and underscores in a name make no difference,
neither does a leading "is".
-/

namespace Reduct.Regex

open Text (Category)

/-- A name without what makes no difference in it. -/
def plainName (name : String) : String :=
  let plain (cs : List Char) : List Char :=
    (cs.filter fun c => c ≤ '\x7f' && c != ' ' && c != '-' && c != '_').map Char.toLower
  match name.toList with
  | i :: s :: rest =>
    if i.toLower = 'i' ∧ s.toLower = 's' then
      -- This one name is itself spelled with the two letters.
      if plain rest = ['c'] then "isc" else String.ofList (plain rest)
    else String.ofList (plain (i :: s :: rest))
  | cs => String.ofList (plain cs)

/-- The properties that hold or do not, by name. -/
def binaryProperty? : String → Option CharClass
  | "alphabetic" | "alpha" => some Text.isAlphabetic
  | "emoji" => some Text.isEmoji
  | "lowercase" | "lower" => some Text.isLowercase
  | "uppercase" | "upper" => some Text.isUppercase
  | "whitespace" | "wspace" | "space" => some Text.isBlank
  | _ => none

/-- The general categories and groups of them, by name. -/
def categories? : String → Option (List Category)
  | "letter" | "l" => some Category.letters
  | "casedletter" | "lc" => some Category.casedLetters
  | "uppercaseletter" | "lu" => some [.capital]
  | "lowercaseletter" | "ll" => some [.smallLetter]
  | "titlecaseletter" | "lt" => some [.titleLetter]
  | "modifierletter" | "lm" => some [.modifierLetter]
  | "otherletter" | "lo" => some [.otherLetter]
  | "mark" | "m" | "combiningmark" => some Category.marks
  | "nonspacingmark" | "mn" => some [.nonspacingMark]
  | "spacingmark" | "mc" => some [.spacingMark]
  | "enclosingmark" | "me" => some [.enclosingMark]
  | "number" | "n" => some Category.numbers
  | "decimalnumber" | "nd" | "digit" => some [.decimalDigit]
  | "letternumber" | "nl" => some [.letterNumber]
  | "othernumber" | "no" => some [.otherNumber]
  | "punctuation" | "p" | "punct" => some Category.punctuation
  | "connectorpunctuation" | "pc" => some [.connector]
  | "dashpunctuation" | "pd" => some [.dash]
  | "openpunctuation" | "ps" => some [.openingBracket]
  | "closepunctuation" | "pe" => some [.closingBracket]
  | "initialpunctuation" | "pi" => some [.initialQuote]
  | "finalpunctuation" | "pf" => some [.finalQuote]
  | "otherpunctuation" | "po" => some [.otherPunctuation]
  | "symbol" | "s" => some Category.symbols
  | "mathsymbol" | "sm" => some [.mathSymbol]
  | "currencysymbol" | "sc" => some [.currencySymbol]
  | "modifiersymbol" | "sk" => some [.modifierSymbol]
  | "othersymbol" | "so" => some [.otherSymbol]
  | "separator" | "z" => some Category.separators
  | "spaceseparator" | "zs" => some [.space]
  | "lineseparator" | "zl" => some [.lineSeparator]
  | "paragraphseparator" | "zp" => some [.paragraphSeparator]
  | "control" | "cc" | "cntrl" => some [.control]
  | "format" | "cf" => some [.format]
  | "privateuse" | "co" => some [.privateUse]
  | "surrogate" | "cs" => some []
  | _ => none

/-- What can stand for a general category, by name. -/
def categoryClass? : String → Option CharClass
  | "any" => some fun _ => true
  | "ascii" => some fun c => c ≤ '\x7f'
  | "assigned" => some Text.isAssigned
  | "unassigned" | "cn" => some fun c => !Text.isAssigned c
  | "other" | "c" =>
    some fun c => Text.isOneOf [.control, .format, .privateUse] c || !Text.isAssigned c
  | name => (categories? name).map Text.isOneOf

/-- The characters of a script, by name. -/
def scriptClass? (name : String) : Option CharClass :=
  (Text.script? name).map fun script => Text.inRanges script.ranges

/-- The characters with a property. A name alone is looked for among all kinds; the kind and a
value after it are looked for there. -/
def Property.chars? (p : Property) : Except Fault CharClass :=
  let name := plainName p.name
  match p.value? with
  | none =>
    match binaryProperty? name <|> categoryClass? name <|> scriptClass? name with
    | some chars => .ok chars
    | none => .error .propertyUnknown
  | some value =>
    let found : Option (Option CharClass) :=
      match name with
      | "generalcategory" | "gc" => some (categoryClass? (plainName value))
      | "script" | "sc" => some (scriptClass? (plainName value))
      | _ => (binaryProperty? name).map fun _ => none
    match found with
    | some (some chars) => .ok chars
    | some none => .error .propertyValueUnknown
    | none => .error .propertyUnknown

end Reduct.Regex
