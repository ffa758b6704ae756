import Lettering.Regex.CharClass
import Lettering.Text.Split
import Lettering.Unicode.Script
import Lettering.Unicode.Trait

/-!
# Named classes

The classes that a pattern writes by name: the one-letter classes, the bracketed names of ASCII
classes, and the Unicode classes, whose names are compared without case, blanks, underscores,
hyphens and a leading "is".
-/

namespace Lettering.Regex.CharClass

open Unicode

/-! ## 1. One-letter classes -/

/-- Decimal digits, of every script or of ASCII. -/
def digit (unicode : Bool) : CharClass :=
  if unicode then property .digit else ofPairs [('0', '9')]

/-- Blanks, all of them or those of ASCII. -/
def space (unicode : Bool) : CharClass :=
  if unicode then property .blank else ofPairs [('\t', '\r'), (' ', ' ')]

/-- Word characters, of every script or of ASCII. -/
def word (unicode : Bool) : CharClass :=
  if unicode then property .word
  else ofPairs [('0', '9'), ('A', 'Z'), ('_', '_'), ('a', 'z')]

/-! ## 2. ASCII classes -/

/-- The classes that are written as `[:name:]`. -/
def asciiNamed : List (String × CharClass) := [
  ("alnum", ofPairs [('0', '9'), ('A', 'Z'), ('a', 'z')]),
  ("alpha", ofPairs [('A', 'Z'), ('a', 'z')]),
  ("ascii", ofPairs [('\x00', '\x7f')]),
  ("blank", ofPairs [('\t', '\t'), (' ', ' ')]),
  ("cntrl", ofPairs [('\x00', '\x1f'), ('\x7f', '\x7f')]),
  ("digit", ofPairs [('0', '9')]),
  ("graph", ofPairs [('!', '~')]),
  ("lower", ofPairs [('a', 'z')]),
  ("print", ofPairs [(' ', '~')]),
  ("punct", ofPairs [('!', '/'), (':', '@'), ('[', '\x60'), ('\x7b', '~')]),
  ("space", ofPairs [('\t', '\r'), (' ', ' ')]),
  ("upper", ofPairs [('A', 'Z')]),
  ("word", ofPairs [('0', '9'), ('A', 'Z'), ('_', '_'), ('a', 'z')]),
  ("xdigit", ofPairs [('0', '9'), ('A', 'F'), ('a', 'f')])]

/-- The ASCII class of a name. -/
def ofAsciiName? (name : String) : Option CharClass := asciiNamed.lookup name

/-! ## 3. Unicode classes -/

/-- Drops a leading "is" in either case. -/
def dropIs : List Char → List Char × Bool
  | a :: b :: rest =>
    if a.toLower == 'i' && b.toLower == 's' then (rest, true) else (a :: b :: rest, false)
  | cs => (cs, false)

/-- A name as it is compared: in lower case, without blanks, underscores and hyphens, and without
a leading "is" (but "isc" stays whole). -/
def normalName (name : List Char) : String :=
  let (body, dropped) := dropIs name
  let kept := body.filter fun c => !(c == ' ' || c == '_' || c == '-') && c.toNat < 128
  let lower := kept.map Char.toLower
  String.ofList (if dropped && lower == ['c'] then ['i', 's', 'c'] else lower)

/-- The class of a general category, or one of the three names used beside them. -/
def ofCategoryName? (name : String) : Option CharClass :=
  if name == "any" then some any
  else if name == "assigned" then some (compl (categories [.unassigned]))
  else if name == "ascii" then some (range 0 0x7F)
  else (GeneralCategory.find? name).map categories

/-- The class of a yes-or-no property. -/
def ofPropertyName? (name : String) : Option CharClass :=
  ((Property.find? name).map property).or ((Trait.find? name).map ranges)

/-- The class of a single name. The names "cf", "sc" and "lc" mean categories. -/
def ofName? (name : String) : Option CharClass :=
  let asProperty := if ["cf", "sc", "lc"].contains name then none else ofPropertyName? name
  (asProperty.or (ofCategoryName? name)).or ((Script.find? name).map ranges)

/-- The class of a value of one of the two properties that have many values. -/
def ofValue? (key value : String) : Option CharClass :=
  if key == "gc" || key == "generalcategory" then ofCategoryName? value
  else if key == "sc" || key == "script" then (Script.find? value).map ranges
  else none

/-- A name split at the first `!=`, or else at the first `:`, or else at the first `=`. Which sign
stands between the two parts makes no difference. -/
def splitValue (name : List Char) : Option (List Char × List Char) :=
  ((unequal [] name).or (Text.splitFirst ':' name)).or (Text.splitFirst '=' name)
where
  /-- The parts before and after the first `!=`; `done` is read already, last first. -/
  unequal (done : List Char) : List Char → Option (List Char × List Char)
    | '!' :: '=' :: rest => some (done.reverse, rest)
    | c :: rest => unequal (c :: done) rest
    | [] => none

/-- The class that a Unicode class name in braces means. -/
def ofUnicodeName? (name : List Char) : Option CharClass :=
  match splitValue name with
  | some (key, value) => ofValue? (normalName key) (normalName value)
  | none => ofName? (normalName name)

end Lettering.Regex.CharClass
