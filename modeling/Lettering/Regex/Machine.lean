import Lettering.Regex.Parse
import Lettering.Regex.Search

/-!
# A machine for regular expressions

The engine that patterns run on where no other is given. A pattern is read into an expression and
compiled to a program, which is searched for its matches.

Some patterns are refused that another engine may take: those with a Unicode class that is neither a
general category nor a script nor one of the properties in the tables, and those whose compiled form
is estimated at more than `maxWeight` bytes.
-/

namespace Lettering.Regex

/-- A compiled pattern with its number of groups and their names. -/
structure Machine where
  program : Program
  groups : Nat
  names : List (String × Nat)

namespace Machine

/-- The bytes that a compiled pattern may take. -/
def maxWeight : Nat := 10 * 1024 * 1024

/-- The machine of a pattern, or `none` if the pattern is invalid or too large. -/
def compile? (pattern : String) : Option Machine := do
  let r ← read? pattern
  if (Expr.group 0 r.expr).weight ≤ maxWeight then some ⟨r.expr.program, r.groups, r.names⟩
  else none

/-- Whether some part of a text matches. -/
def isMatch (machine : Machine) (text : String) : Bool :=
  (findFrom machine.program text.toList.toArray 0).isSome

/-- The matches in a text, from left to right. -/
def matchesIn (machine : Machine) (text : Array Char) : List Match :=
  allMatches machine.program text

/-- The first search of all matches is the one that tells whether there are any. -/
theorem matchesIn_eq_nil {machine : Machine} {text : String}
    (h : machine.isMatch text = false) : machine.matchesIn text.toList.toArray = [] := by
  have hnone : findFrom machine.program text.toList.toArray 0 = none := by
    simpa [isMatch] using h
  rw [matchesIn, allMatches, matchesFrom, hnone]

instance : Engine where
  Compiled := Machine
  compile? := compile?
  names := names
  isMatch := isMatch
  matchesIn := matchesIn
  matchesIn_eq_nil := matchesIn_eq_nil

end Machine

end Lettering.Regex
