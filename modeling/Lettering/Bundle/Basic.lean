import Lettering.Interval.Map
import Lettering.Interval.Shift
import Lettering.Substitution
import Lettering.Rule.Metadata
import Lettering.Rule.Problem

/-!
# Bundles

A bundle is what rule sets become when they are loaded: a dictionary as head, and behind it a tail
of shifts, interval maps and substitutions.

* `resolve` is the meaning of one character: the last rule of the tail that covers it decides, and
  the head where none does.
* `run` makes the substitutions over the whole text in the order of the tail and then resolves each
  character, from the end of the text if the metadata say so. It leaves a text alone that no rule
  for characters touches.
* `concerns` is a quick test beforehand; where it says no, `run` changes nothing.
-/

namespace Lettering

variable [Regex.Engine]

/-- A rule of the tail. -/
inductive TailRule where
  | shift (shift : Shift)
  | intervals (map : IntervalMap String)
  | substitution (substitution : Substitution)
  deriving DecidableEq

namespace TailRule

/-- Whether the rule answers a single character. Substitutions never do. -/
def covers : TailRule → Nat → Bool
  | shift l, key => l.covers key
  | intervals t, key => t.covers key
  | substitution _, _ => false

/-- The answer for a single character, asked only where the rule covers it. -/
def answer : TailRule → Nat → Except LookupError String
  | shift l, key => l.answer key
  | intervals t, key => t.answer key
  | substitution _, key => .error (.outOfRange key)

/-- The substitution, if it is one. -/
def substitution? : TailRule → Option Substitution
  | substitution s => some s
  | _ => none

/-- Whether the rule is an interval map. -/
def isIntervals : TailRule → Bool
  | intervals _ => true
  | _ => false

end TailRule

/-- Loaded rules with their metadata and what was left out when they were loaded. -/
structure Bundle where
  name : String
  metadata : Metadata
  head : Dictionary
  tail : List TailRule
  warnings : List RuleWarning
  deriving DecidableEq

/-- Why a bundle cannot put out a text. -/
inductive StageError where
  | lookup (stage : String) (source : LookupError)
  deriving DecidableEq, Repr

/-- The wording of a stage error. -/
def StageError.message : StageError → String
  | lookup stage source => "Translation failed at stage `" ++ stage ++ "`: " ++ source.message

namespace Bundle

/-! ## 1. One character -/

/-- The rule of the tail that decides for a key. -/
def decider? (b : Bundle) (key : Nat) : Option TailRule :=
  b.tail.reverse.find? (·.covers key)

/-- What a character becomes. -/
def resolve (b : Bundle) (c : Char) : Except LookupError String :=
  match b.decider? c.toNat with
  | some l => l.answer c.toNat
  | none => .ok (b.head.answerChar c.toNat)

/-- Whether the pass over the characters may change one. -/
def touches (b : Bundle) (c : Char) : Bool :=
  b.head.fallback.isSome || b.head.chars.contains c.toNat ||
    b.tail.any (·.covers c.toNat)

/-! ## 2. Whole texts -/

/-- The substitutions in the order of the tail. -/
def substitutions (b : Bundle) : List Substitution := b.tail.filterMap TailRule.substitution?

/-- Whether running a text through the bundle may change it. -/
def concerns (b : Bundle) (text : String) : Bool :=
  b.substitutions.any (·.isMatch text) ||
    (b.metadata.reverseOut && 1 < text.length) ||
    text.toList.any b.touches

/-- The text with all substitutions made. -/
def substituteAll (b : Bundle) (text : String) : String :=
  b.substitutions.foldl (fun text s => s.apply text) text

/-- The characters resolved in order and put together; the first failure ends it. -/
def resolveAll (b : Bundle) (cs : List Char) : Except StageError String :=
  match cs.mapM b.resolve with
  | .ok parts => .ok (String.join parts)
  | .error e => .error (.lookup b.name e)

/-- What a text becomes. -/
def run (b : Bundle) (text : String) : Except StageError String :=
  let text := b.substituteAll text
  if b.metadata.reverseOut then b.resolveAll text.toList.reverse
  else if text.toList.any b.touches then b.resolveAll text.toList
  else .ok text

end Bundle

end Lettering
