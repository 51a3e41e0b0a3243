/-
# General categories

The general categories of characters with their names, and the classes of characters that are
built from them: alphabetic, numeric, uppercase, lowercase and word characters.
-/
import GuidedXml.Text.Range
import GuidedXml.Text.Category.Ranges

namespace GuidedXml.Text

/-! ## Categories -/

/-- A general category, or a group of them. -/
inductive Category where
  | uppercaseLetter | lowercaseLetter | titlecaseLetter | modifierLetter | otherLetter
  | nonspacingMark | spacingMark | enclosingMark
  | decimalNumber | letterNumber | otherNumber
  | connectorPunctuation | dashPunctuation | openPunctuation | closePunctuation
  | initialPunctuation | finalPunctuation | otherPunctuation
  | mathSymbol | currencySymbol | modifierSymbol | otherSymbol
  | spaceSeparator | lineSeparator | paragraphSeparator
  | control | format | privateUse | unassigned
  deriving DecidableEq, Repr

namespace Category

/-- The categories that have a list of ranges, that is all but the unassigned one. -/
def assigned : List Category :=
  [uppercaseLetter, lowercaseLetter, titlecaseLetter, modifierLetter, otherLetter,
   nonspacingMark, spacingMark, enclosingMark, decimalNumber, letterNumber, otherNumber,
   connectorPunctuation, dashPunctuation, openPunctuation, closePunctuation, initialPunctuation,
   finalPunctuation, otherPunctuation, mathSymbol, currencySymbol, modifierSymbol, otherSymbol,
   spaceSeparator, lineSeparator, paragraphSeparator, control, format, privateUse]

/-- The ranges of a category. -/
def ranges : Category → List (Nat × Nat)
  | uppercaseLetter => Ranges.uppercaseLetter
  | lowercaseLetter => Ranges.lowercaseLetter
  | titlecaseLetter => Ranges.titlecaseLetter
  | modifierLetter => Ranges.modifierLetter
  | otherLetter => Ranges.otherLetter
  | nonspacingMark => Ranges.nonspacingMark
  | spacingMark => Ranges.spacingMark
  | enclosingMark => Ranges.enclosingMark
  | decimalNumber => Ranges.decimalNumber
  | letterNumber => Ranges.letterNumber
  | otherNumber => Ranges.otherNumber
  | connectorPunctuation => Ranges.connectorPunctuation
  | dashPunctuation => Ranges.dashPunctuation
  | openPunctuation => Ranges.openPunctuation
  | closePunctuation => Ranges.closePunctuation
  | initialPunctuation => Ranges.initialPunctuation
  | finalPunctuation => Ranges.finalPunctuation
  | otherPunctuation => Ranges.otherPunctuation
  | mathSymbol => Ranges.mathSymbol
  | currencySymbol => Ranges.currencySymbol
  | modifierSymbol => Ranges.modifierSymbol
  | otherSymbol => Ranges.otherSymbol
  | spaceSeparator => Ranges.spaceSeparator
  | lineSeparator => Ranges.lineSeparator
  | paragraphSeparator => Ranges.paragraphSeparator
  | control => Ranges.control
  | format => Ranges.format
  | privateUse => Ranges.privateUse
  | unassigned => []

/-- Whether the character belongs to the category. -/
def holds (g : Category) (c : Char) : Bool :=
  if g = unassigned then assigned.all fun a => !covers a.ranges c else covers g.ranges c

/-! ## Groups and names -/

/-- The categories of letters. -/
def letters : List Category :=
  [uppercaseLetter, lowercaseLetter, titlecaseLetter, modifierLetter, otherLetter]

/-- The categories of letters with case. -/
def casedLetters : List Category :=
  [uppercaseLetter, lowercaseLetter, titlecaseLetter]

/-- The categories of combining marks. -/
def marks : List Category :=
  [nonspacingMark, spacingMark, enclosingMark]

/-- The categories of numbers. -/
def numbers : List Category :=
  [decimalNumber, letterNumber, otherNumber]

/-- The categories of punctuation. -/
def punctuation : List Category :=
  [connectorPunctuation, dashPunctuation, openPunctuation, closePunctuation, initialPunctuation,
   finalPunctuation, otherPunctuation]

/-- The categories of symbols. -/
def symbols : List Category :=
  [mathSymbol, currencySymbol, modifierSymbol, otherSymbol]

/-- The categories of separators. -/
def separators : List Category :=
  [spaceSeparator, lineSeparator, paragraphSeparator]

/-- The categories of characters that are none of the above. -/
def others : List Category :=
  [control, format, privateUse, unassigned]

/-- The names of categories and groups, in the loose form in which names are compared. -/
def names : List (List String × List Category) :=
  [(["l", "letter"], letters), (["lc", "casedletter"], casedLetters),
   (["lu", "uppercaseletter"], [uppercaseLetter]), (["ll", "lowercaseletter"], [lowercaseLetter]),
   (["lt", "titlecaseletter"], [titlecaseLetter]), (["lm", "modifierletter"], [modifierLetter]),
   (["lo", "otherletter"], [otherLetter]),
   (["m", "mark", "combiningmark"], marks), (["mn", "nonspacingmark"], [nonspacingMark]),
   (["mc", "spacingmark"], [spacingMark]), (["me", "enclosingmark"], [enclosingMark]),
   (["n", "number"], numbers), (["nd", "decimalnumber", "digit"], [decimalNumber]),
   (["nl", "letternumber"], [letterNumber]), (["no", "othernumber"], [otherNumber]),
   (["p", "punctuation", "punct"], punctuation),
   (["pc", "connectorpunctuation"], [connectorPunctuation]),
   (["pd", "dashpunctuation"], [dashPunctuation]), (["ps", "openpunctuation"], [openPunctuation]),
   (["pe", "closepunctuation"], [closePunctuation]),
   (["pi", "initialpunctuation"], [initialPunctuation]),
   (["pf", "finalpunctuation"], [finalPunctuation]),
   (["po", "otherpunctuation"], [otherPunctuation]),
   (["s", "symbol"], symbols), (["sm", "mathsymbol"], [mathSymbol]),
   (["sc", "currencysymbol"], [currencySymbol]), (["sk", "modifiersymbol"], [modifierSymbol]),
   (["so", "othersymbol"], [otherSymbol]),
   (["z", "separator"], separators), (["zs", "spaceseparator"], [spaceSeparator]),
   (["zl", "lineseparator"], [lineSeparator]), (["zp", "paragraphseparator"], [paragraphSeparator]),
   (["c", "other"], others), (["cc", "control", "cntrl"], [control]), (["cf", "format"], [format]),
   (["co", "privateuse"], [privateUse]), (["cn", "unassigned"], [unassigned])]

/-- The categories that go by a name in loose form. -/
def named? (name : String) : Option (List Category) :=
  (names.find? (·.1.contains name)).map (·.2)

end Category

/-! ## Classes of characters -/

/-- Whether the character belongs to one of the categories. -/
def inCategories (gs : List Category) (c : Char) : Bool :=
  gs.any (·.holds c)

/-- Whether the character is alphabetic. -/
def isAlphabetic (c : Char) : Bool :=
  inCategories Category.letters c || Category.letterNumber.holds c ||
    covers Category.Ranges.otherAlphabetic c

/-- Whether the character is a number of any kind. -/
def isNumeric (c : Char) : Bool :=
  inCategories Category.numbers c

/-- Whether the character is alphabetic or a number. -/
def isAlphanumeric (c : Char) : Bool :=
  isAlphabetic c || isNumeric c

/-- Whether the character is a decimal digit of any script. -/
def isDecimal (c : Char) : Bool :=
  Category.decimalNumber.holds c

/-- Whether the character is a combining mark. -/
def isMark (c : Char) : Bool :=
  inCategories Category.marks c

/-- Whether the character is uppercase. -/
def isUppercase (c : Char) : Bool :=
  Category.uppercaseLetter.holds c || covers Category.Ranges.otherUppercase c

/-- Whether the character is lowercase. -/
def isLowercase (c : Char) : Bool :=
  Category.lowercaseLetter.holds c || covers Category.Ranges.otherLowercase c

/-- Whether the character can be part of a word: it is alphabetic, a mark, a decimal digit, a
connector or one of the two joiners. -/
def isWord (c : Char) : Bool :=
  isAlphabetic c || isMark c || isDecimal c || Category.connectorPunctuation.holds c ||
    c.toNat == 0x200C || c.toNat == 0x200D

end GuidedXml.Text
