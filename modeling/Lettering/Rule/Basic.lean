import Lettering.Unicode.Property
import Lettering.Rule.Spec

/-!
# Rules

One entry of a rule set. Its kind is read off the key: three characters of the private use area
mark offset, pattern and range rules, whose name is the rest of the key without leading blanks;
any other key belongs to a character rule and is kept whole.
-/

namespace Lettering

/-- The kinds of rules. -/
inductive RuleKind where
  | char | offset | pattern | range
  deriving DecidableEq, Repr

/-- The kind that a key marks. -/
def RuleKind.ofKey (key : String) : RuleKind :=
  match key.toList with
  | '\uF811' :: _ => .offset
  | '\uF812' :: _ => .pattern
  | '\uF813' :: _ => .range
  | _ => .char

/-- An entry of a rule set. The character rule with the empty key holds the default. -/
inductive Rule where
  | char (key : String) (value : Alternatives String)
  | offset (name : String) (spec : Alternatives OffsetSpec)
  | range (name : String) (spec : Alternatives RangeSpec)
  | pattern (name : String) (spec : Alternatives PatternSpec)
  deriving DecidableEq

namespace Rule

/-- The kind of a rule. -/
def kind : Rule → RuleKind
  | char _ _ => .char
  | offset _ _ => .offset
  | range _ _ => .range
  | pattern _ _ => .pattern

/-- The key of a character rule, and the name of any other. -/
def name : Rule → String
  | char key _ => key
  | offset name _ => name
  | range name _ => name
  | pattern name _ => name

/-- The name behind the mark of a key. -/
def nameOfKey (key : String) : String :=
  String.ofList ((key.toList.drop 1).dropWhile fun c => Unicode.isBlank c.toNat)

/-- The rule of a key and a JSON value, or `none` if the value is not of the kind's form. -/
def ofJson? (key : String) (value : Json) : Option Rule :=
  match RuleKind.ofKey key with
  | .char => (JsonForm.ofJson? value).map (char key)
  | .offset => (JsonForm.ofJson? value).map (offset (nameOfKey key))
  | .pattern => (JsonForm.ofJson? value).map (pattern (nameOfKey key))
  | .range => (JsonForm.ofJson? value).map (range (nameOfKey key))

end Rule

end Lettering
