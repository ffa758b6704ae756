import Lettering.Unicode.Letter
import Lettering.Unicode.Mark
import Lettering.Unicode.Number
import Lettering.Unicode.Punctuation
import Lettering.Unicode.Symbol
import Lettering.Unicode.Separator

/-!
# General categories

Every code point has exactly one general category. Twenty-nine of them have a table; a code point
in none of the tables is unassigned. Groups such as "letter" or "mark" are lists of categories.
-/

namespace Lettering.Unicode

/-- The general category of a code point. -/
inductive GeneralCategory where
  | uppercaseLetter | lowercaseLetter | titlecaseLetter | modifierLetter | otherLetter
  | nonspacingMark | spacingMark | enclosingMark
  | decimalNumber | letterNumber | otherNumber
  | connectorPunctuation | dashPunctuation | openPunctuation | closePunctuation
  | initialPunctuation | finalPunctuation | otherPunctuation
  | mathSymbol | currencySymbol | modifierSymbol | otherSymbol
  | spaceSeparator | lineSeparator | paragraphSeparator
  | control | format | surrogate | privateUse | unassigned
  deriving DecidableEq, Repr

namespace GeneralCategory

/-- The ranges of an assigned category; `unassigned` has no table. -/
def ranges : GeneralCategory → Ranges
  | uppercaseLetter => Table.uppercaseLetter
  | lowercaseLetter => Table.lowercaseLetter
  | titlecaseLetter => Table.titlecaseLetter
  | modifierLetter => Table.modifierLetter
  | otherLetter => Table.otherLetter
  | nonspacingMark => Table.nonspacingMark
  | spacingMark => Table.spacingMark
  | enclosingMark => Table.enclosingMark
  | decimalNumber => Table.decimalNumber
  | letterNumber => Table.letterNumber
  | otherNumber => Table.otherNumber
  | connectorPunctuation => Table.connectorPunctuation
  | dashPunctuation => Table.dashPunctuation
  | openPunctuation => Table.openPunctuation
  | closePunctuation => Table.closePunctuation
  | initialPunctuation => Table.initialPunctuation
  | finalPunctuation => Table.finalPunctuation
  | otherPunctuation => Table.otherPunctuation
  | mathSymbol => Table.mathSymbol
  | currencySymbol => Table.currencySymbol
  | modifierSymbol => Table.modifierSymbol
  | otherSymbol => Table.otherSymbol
  | spaceSeparator => Table.spaceSeparator
  | lineSeparator => Table.lineSeparator
  | paragraphSeparator => Table.paragraphSeparator
  | control => Table.control
  | format => Table.format
  | surrogate => Table.surrogate
  | privateUse => Table.privateUse
  | unassigned => []

/-! ## 1. Groups -/

/-- The categories of letters that have case. -/
def casedLetters : List GeneralCategory := [uppercaseLetter, lowercaseLetter, titlecaseLetter]

/-- The categories of letters. -/
def letters : List GeneralCategory := casedLetters ++ [modifierLetter, otherLetter]

/-- The categories of combining marks. -/
def marks : List GeneralCategory := [nonspacingMark, spacingMark, enclosingMark]

/-- The categories of numbers. -/
def numbers : List GeneralCategory := [decimalNumber, letterNumber, otherNumber]

/-- The categories of punctuation. -/
def punctuation : List GeneralCategory :=
  [connectorPunctuation, dashPunctuation, openPunctuation, closePunctuation,
    initialPunctuation, finalPunctuation, otherPunctuation]

/-- The categories of symbols. -/
def symbols : List GeneralCategory := [mathSymbol, currencySymbol, modifierSymbol, otherSymbol]

/-- The categories of separators. -/
def separators : List GeneralCategory := [spaceSeparator, lineSeparator, paragraphSeparator]

/-- The categories of everything that is no visible character. -/
def others : List GeneralCategory := [control, format, surrogate, privateUse, unassigned]

/-- The categories that have a table. -/
def assigned : List GeneralCategory :=
  letters ++ marks ++ numbers ++ punctuation ++ symbols ++ separators ++
    [control, format, surrogate, privateUse]

/-! ## 2. Membership -/

/-- Whether a code point has the category. -/
def holds (g : GeneralCategory) (c : Nat) : Bool :=
  match g with
  | unassigned => !(assigned.any fun h => h.ranges.covers c)
  | g => g.ranges.covers c

/-- Whether a code point has one of the categories. -/
def anyHolds (gs : List GeneralCategory) (c : Nat) : Bool :=
  gs.any fun g => g.holds c

/-! ## 3. Names -/

/-- The groups and categories with their names: the abbreviation first, then the long names, in
lower case and without separators. -/
def names : List (List String × List GeneralCategory) := [
  (["l", "letter"], letters),
  (["lc", "casedletter"], casedLetters),
  (["lu", "uppercaseletter"], [uppercaseLetter]),
  (["ll", "lowercaseletter"], [lowercaseLetter]),
  (["lt", "titlecaseletter"], [titlecaseLetter]),
  (["lm", "modifierletter"], [modifierLetter]),
  (["lo", "otherletter"], [otherLetter]),
  (["m", "mark", "combiningmark"], marks),
  (["mn", "nonspacingmark"], [nonspacingMark]),
  (["mc", "spacingmark"], [spacingMark]),
  (["me", "enclosingmark"], [enclosingMark]),
  (["n", "number"], numbers),
  (["nd", "decimalnumber", "digit"], [decimalNumber]),
  (["nl", "letternumber"], [letterNumber]),
  (["no", "othernumber"], [otherNumber]),
  (["p", "punctuation", "punct"], punctuation),
  (["pc", "connectorpunctuation"], [connectorPunctuation]),
  (["pd", "dashpunctuation"], [dashPunctuation]),
  (["ps", "openpunctuation"], [openPunctuation]),
  (["pe", "closepunctuation"], [closePunctuation]),
  (["pi", "initialpunctuation"], [initialPunctuation]),
  (["pf", "finalpunctuation"], [finalPunctuation]),
  (["po", "otherpunctuation"], [otherPunctuation]),
  (["s", "symbol"], symbols),
  (["sm", "mathsymbol"], [mathSymbol]),
  (["sc", "currencysymbol"], [currencySymbol]),
  (["sk", "modifiersymbol"], [modifierSymbol]),
  (["so", "othersymbol"], [otherSymbol]),
  (["z", "separator"], separators),
  (["zs", "spaceseparator"], [spaceSeparator]),
  (["zl", "lineseparator"], [lineSeparator]),
  (["zp", "paragraphseparator"], [paragraphSeparator]),
  (["c", "other"], others),
  (["cc", "control", "cntrl"], [control]),
  (["cf", "format"], [format]),
  (["cs", "surrogate"], [surrogate]),
  (["co", "privateuse"], [privateUse]),
  (["cn", "unassigned"], [unassigned])]

/-- The categories of a name in lower case without separators. -/
def find? (name : String) : Option (List GeneralCategory) :=
  (names.find? fun n => n.1.contains name).map (·.2)

end GeneralCategory

end Lettering.Unicode
