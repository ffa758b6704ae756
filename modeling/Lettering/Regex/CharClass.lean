import Lettering.Unicode.Property
import Lettering.Unicode.CaseFold

/-!
# Classes of characters in patterns

What one position of a pattern matches: ranges and Unicode classes, put together by the set
operations that brackets offer. `contains` is the membership test; everything else about a class
is defined through it or by recursion on its shape.

* `anyCase` closes a class under case variants, `anyCaseAscii` under those of ASCII alone.
* `weight` estimates how much a compiled pattern spends on the class, which the size limit of
  patterns counts.
-/

namespace Lettering.Regex

open Unicode

/-- A class of characters. -/
inductive CharClass where
  | never
  | range (lo hi : Nat)
  | ranges (rs : Ranges)
  | categories (gs : List GeneralCategory)
  | property (p : Property)
  | union (a b : CharClass)
  | inter (a b : CharClass)
  | diff (a b : CharClass)
  | symmDiff (a b : CharClass)
  | compl (a : CharClass)
  | anyCase (a : CharClass)
  | anyCaseAscii (a : CharClass)

namespace CharClass

/-- The other case of a letter of ASCII, and any other code point itself. -/
def otherCaseAscii (c : Nat) : Nat :=
  if 0x41 ≤ c ∧ c ≤ 0x5A then c + 0x20
  else if 0x61 ≤ c ∧ c ≤ 0x7A then c - 0x20
  else c

/-- Whether a code point belongs to the class. -/
def contains : CharClass → Nat → Bool
  | never, _ => false
  | range lo hi, c => lo ≤ c && c ≤ hi
  | ranges rs, c => rs.covers c
  | categories gs, c => GeneralCategory.anyHolds gs c
  | property p, c => p.holds c
  | union a b, c => a.contains c || b.contains c
  | inter a b, c => a.contains c && b.contains c
  | diff a b, c => a.contains c && !b.contains c
  | symmDiff a b, c => a.contains c != b.contains c
  | compl a, c => !a.contains c
  | anyCase a, c => (caseVariants c).any fun d => a.contains d
  | anyCaseAscii a, c => a.contains c || a.contains (otherCaseAscii c)

/-- Every character. -/
def any : CharClass := range 0 0x10FFFF

/-- One character. -/
def single (c : Char) : CharClass := range c.toNat c.toNat

/-- The union of several classes. -/
def unionAll (cs : List CharClass) : CharClass := cs.foldr union never

/-- The class of a list of ranges given by their ends. -/
def ofPairs (ps : List (Char × Char)) : CharClass :=
  ranges (ps.map fun p => (p.1.toNat, p.2.toNat))

/-- Whether the class holds a byte outside ASCII. -/
def hasHighByte (a : CharClass) : Bool :=
  (List.range 128).any fun i => a.contains (i + 128)

/-! ## 1. Weight -/

/-- Roughly the number of ranges that the class takes when it is written out. -/
def spans : CharClass → Nat
  | never => 0
  | range _ _ => 1
  | ranges rs => rs.length
  | categories gs => (gs.map fun g => g.ranges.length).sum
  | property p => p.spans
  | union a b => a.spans + b.spans
  | inter a b => a.spans + b.spans
  | diff a b => a.spans + b.spans
  | symmDiff a b => a.spans + b.spans
  | compl a => a.spans + 1
  | anyCase a => 2 * a.spans
  | anyCaseAscii a => 2 * a.spans

/-- Whether the class is plainly within ASCII. -/
def withinAscii : CharClass → Bool
  | never => true
  | range _ hi => hi < 128
  | ranges rs => rs.all fun r => r.2 < 128
  | categories _ => false
  | property _ => false
  | union a b => a.withinAscii && b.withinAscii
  | inter a b => a.withinAscii || b.withinAscii
  | diff a _ => a.withinAscii
  | symmDiff a b => a.withinAscii && b.withinAscii
  | compl _ => false
  | anyCase a => a.withinAscii && !([0x4B, 0x53, 0x6B, 0x73].any fun c => a.contains c)
  | anyCaseAscii a => a.withinAscii

/-- The bytes that a compiled pattern spends on the class. -/
def weight (a : CharClass) : Nat :=
  if a.withinAscii then 64 + 8 * a.spans else 400 + 60 * (a.spans - 1)

end CharClass

end Lettering.Regex
