import Lettering.Regex.Template

/-!
# Regular expressions

What reads patterns and finds their matches is an engine. The rest of the library is stated over any
of them and relies on two things: an engine lists the matches of a text with the ends of their
groups, and where it says that nothing matches it lists none.

What becomes of the matches is the same for every engine. Each is replaced by a template whose
references stand for what its groups have captured.
-/

namespace Lettering

namespace Regex

/-- A match: its ends, and every position saved for a group, a start under an even number and an end
under the odd one behind it. -/
structure Match where
  start : Nat
  finish : Nat
  saved : List (Nat × Nat)

/-- The ends of a group, if it took part in the match. -/
def Match.group (m : Match) (index : Nat) : Option (Nat × Nat) := do
  let start ← m.saved.lookup (2 * index)
  let finish ← m.saved.lookup (2 * index + 1)
  return (start, finish)

/-- An engine reads patterns, and finds the matches of what it has read. -/
class Engine where
  /-- What a pattern becomes when it is read. -/
  Compiled : Type
  /-- Reads a pattern; `none` if the engine does not take it. -/
  compile? : String → Option Compiled
  /-- The groups that have a name, each with its number. -/
  names : Compiled → List (String × Nat)
  /-- Whether some part of a text matches. -/
  isMatch : Compiled → String → Bool
  /-- The matches in a text, from left to right. -/
  matchesIn : Compiled → Array Char → List Match
  /-- Where nothing matches, there are no matches. -/
  matchesIn_eq_nil : ∀ {re : Compiled} {text : String}, isMatch re text = false →
    matchesIn re text.toList.toArray = []

end Regex

/-- A pattern that the engine has read. -/
abbrev Regex [Regex.Engine] : Type := Regex.Engine.Compiled

namespace Regex

/-- The characters between two positions. -/
def slice (text : Array Char) (ends : Nat × Nat) : List Char :=
  (text.extract ends.1 ends.2).toList

/-- The text from a position on with the given matches replaced. -/
def replaceMatches (text : Array Char) (replacement : Match → String) (pos : Nat) :
    List Match → String
  | [] => String.ofList (slice text (pos, text.size))
  | m :: rest =>
    String.ofList (slice text (pos, m.start)) ++ replacement m ++
      replaceMatches text replacement m.finish rest

variable [Engine]

/-- The text that a part of a template stands for at a match. -/
def expandPart (re : Regex) (text : Array Char) (m : Match) : TemplatePart → List Char
  | .text c => [c]
  | .number index => ((m.group index).map (slice text)).getD []
  | .name name => (((Engine.names re).lookup name).bind m.group |>.map (slice text)).getD []

/-- A template with its references replaced by the groups of a match. -/
def expand (re : Regex) (text : Array Char) (m : Match) (template : String) : String :=
  String.ofList ((templateParts template).flatMap (re.expandPart text m))

/-- The text with every match replaced; a text without one is given back as it is. -/
def replaceAll (re : Regex) (text : String) (replacement : Array Char → Match → String) :
    String :=
  let cs := text.toList.toArray
  match Engine.matchesIn re cs with
  | [] => text
  | ms => replaceMatches cs (replacement cs) 0 ms

/-- Where nothing matches, nothing is replaced. -/
theorem replaceAll_of_not_isMatch {re : Regex} {text : String}
    (h : Engine.isMatch re text = false) (replacement : Array Char → Match → String) :
    re.replaceAll text replacement = text := by
  unfold replaceAll
  simp only [Engine.matchesIn_eq_nil h]

end Regex

end Lettering
