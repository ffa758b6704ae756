import Lettering.Regex.Engine
import Lettering.Regex.Program

/-!
# Searching

A search walks the program over a text, a thread at a time and the preferred thread first. A
thread that stands where another has stood before it cannot do better, so every pair of
instruction and position is visited once; the first thread to accept is the match.

* `findFrom` is the leftmost match at or after a position, and of those at one position the
  preferred one.
* `allMatches` goes on behind each match. An empty match right behind the match before it does not
  count: the search is taken up one character further on.
-/

namespace Lettering.Regex

/-- A way through the program: where it stands, and the positions saved so far, newest first. -/
structure Thread where
  pc : Nat
  pos : Nat
  saved : List (Nat × Nat)

/-- The threads that an instruction leads to, preferred first. -/
def Inst.follow (i : Inst) (text : Array Char) (t : Thread) : List Thread :=
  match i with
  | .accept => []
  | .char c next =>
    match text[t.pos]? with
    | some x => if c.contains x.toNat then [{ t with pc := next, pos := t.pos + 1 }] else []
    | none => []
  | .split first second => [{ t with pc := first }, { t with pc := second }]
  | .save slot next => [{ t with pc := next, saved := (slot, t.pos) :: t.saved }]
  | .look l next =>
    let before := if t.pos = 0 then none else text[t.pos - 1]?
    if l.holds before text[t.pos]? then [{ t with pc := next }] else []

/-- Runs the threads of a stack; `seen` marks the pairs of instruction and position that were
visited. The fuel bounds the number of threads looked at. -/
def explore (insts : Array Inst) (text : Array Char) :
    Nat → Array Bool → List Thread → Option Thread × Array Bool
  | 0, seen, _ => (none, seen)
  | _ + 1, seen, [] => (none, seen)
  | fuel + 1, seen, t :: rest =>
    let place := t.pc * (text.size + 1) + t.pos
    if seen.getD place true then explore insts text fuel seen rest
    else
      let seen := seen.setIfInBounds place true
      match insts[t.pc]? with
      | none => explore insts text fuel seen rest
      | some .accept => (some t, seen)
      | some i => explore insts text fuel seen (i.follow text t ++ rest)

/-- Tries `count` starting positions from `pos` on. -/
def tryFrom (p : Program) (text : Array Char) (fuel : Nat) (seen : Array Bool) (pos : Nat) :
    Nat → Option Match
  | 0 => none
  | count + 1 =>
    match explore p.insts text fuel seen [⟨p.start, pos, []⟩] with
    | (some t, _) => some ⟨pos, t.pos, t.saved⟩
    | (none, seen) => tryFrom p text fuel seen (pos + 1) count

/-- The leftmost match that starts at or after a position. -/
def findFrom (p : Program) (text : Array Char) (pos : Nat) : Option Match :=
  let places := p.insts.size * (text.size + 1)
  tryFrom p text (2 * places + 2) (Array.replicate places false) pos (text.size + 1 - pos)

/-- The matches from a position on, behind a match that ended at `lastEnd`. -/
def matchesFrom (p : Program) (text : Array Char) :
    Nat → Nat → Option Nat → List Match
  | 0, _, _ => []
  | fuel + 1, pos, lastEnd =>
    match findFrom p text pos with
    | none => []
    | some m =>
      if m.start = m.finish ∧ lastEnd = some m.finish then
        matchesFrom p text fuel (pos + 1) lastEnd
      else m :: matchesFrom p text fuel m.finish (some m.finish)

/-- Every match of a program in a text, from left to right. -/
def allMatches (p : Program) (text : Array Char) : List Match :=
  matchesFrom p text (2 * text.size + 4) 0 none

end Lettering.Regex
