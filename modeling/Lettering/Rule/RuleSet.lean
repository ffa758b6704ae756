import Lettering.Rule.Basic
import Lettering.Rule.Metadata

/-!
# Rule sets

A named list of rules with metadata and the names of the sets it includes, the most important
first. A set is put together step by step from `new`; nothing is checked before it is built into a
bundle.
-/

namespace Lettering

/-- A named set of rules. -/
structure RuleSet where
  name : String
  metadata : Metadata
  rules : List Rule
  includes : List String
  deriving DecidableEq

namespace RuleSet

/-- The set without rules. -/
def new (name : String) : RuleSet := ⟨name, .empty, [], []⟩

/-- Adds a rule. -/
def add (s : RuleSet) (r : Rule) : RuleSet := { s with rules := s.rules ++ [r] }

/-- Adds a character rule. -/
def addChar (s : RuleSet) (key value : String) : RuleSet := s.add (.char key (.one value))

/-- Adds a character rule with alternatives. -/
def addChars (s : RuleSet) (key : String) (values : List String) : RuleSet :=
  s.add (.char key (.many values))

/-- Adds what characters without a rule become. -/
def addFallback (s : RuleSet) (value : String) : RuleSet := s.addChar "" value

/-- Adds an offset rule. -/
def addOffset (s : RuleSet) (name : String) (spec : OffsetSpec) : RuleSet :=
  s.add (.offset name (.one spec))

/-- Adds a range rule. -/
def addRange (s : RuleSet) (name : String) (spec : RangeSpec) : RuleSet :=
  s.add (.range name (.one spec))

/-- Adds a pattern rule. -/
def addPattern (s : RuleSet) (name : String) (spec : PatternSpec) : RuleSet :=
  s.add (.pattern name (.one spec))

/-- Adds the name of a set to include. -/
def addInclude (s : RuleSet) (name : String) : RuleSet :=
  { s with includes := s.includes ++ [name] }

/-- Replaces the metadata. -/
def withMetadata (s : RuleSet) (m : Metadata) : RuleSet := { s with metadata := m }

/-- Says whether keys and values change places when the set is loaded. -/
def swapping (s : RuleSet) (on : Bool) : RuleSet :=
  { s with metadata := { s.metadata with reverseTrans := some on } }

/-- Says whether characters are put out from the end of the text. -/
def backwards (s : RuleSet) (on : Bool) : RuleSet :=
  { s with metadata := { s.metadata with reverseOut := on } }

/-- Describes the set in a language. -/
def describe (s : RuleSet) (language text : String) : RuleSet :=
  { s with metadata := { s.metadata with desc := s.metadata.desc.insert language text } }

end RuleSet

end Lettering
