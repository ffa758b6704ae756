import Lettering.Regex.CharClass

/-!
# Pattern expressions

The shape of a pattern after reading: flags are resolved, so a class is the class that is meant
and a repetition knows whether it is greedy. Of two ways to match, the earlier alternative and the
greedy (or lazy) choice comes first; the compiled form keeps that order.
-/

namespace Lettering.Regex

/-- What a word boundary asks of the characters before and after it. -/
inductive Boundary where
  | edge | noEdge | start | finish | startHalf | finishHalf
  deriving DecidableEq, Repr

/-- A condition on a position of the text. `unicode` says which characters make a word. -/
inductive Look where
  | textStart | textEnd | lineStart | lineEnd | lineStartCrlf | lineEndCrlf
  | boundary (kind : Boundary) (unicode : Bool)
  deriving DecidableEq, Repr

/-- A pattern. -/
inductive Expr where
  | empty
  | literal (c : Char)
  | cls (c : CharClass)
  | look (l : Look)
  | group (index : Nat) (e : Expr)
  | concat (a b : Expr)
  | alt (a b : Expr)
  | rep (min : Nat) (max : Option Nat) (greedy : Bool) (e : Expr)

/-! ## 1. Looking around a position -/

/-- Whether a character is part of a word. -/
def isWordChar (unicode : Bool) (c : Char) : Bool :=
  if unicode then Unicode.isWord c.toNat else c.isAlphanum || c == '_'

/-- Whether a boundary lies between two sides, each a word character or not. -/
def Boundary.holds (kind : Boundary) (before after : Bool) : Bool :=
  match kind with
  | edge => before != after
  | noEdge => before == after
  | start => !before && after
  | finish => before && !after
  | startHalf => !before
  | finishHalf => !after

/-- Whether the condition holds between the character before a position and the one after it. -/
def Look.holds (l : Look) (before after : Option Char) : Bool :=
  match l with
  | textStart => before.isNone
  | textEnd => after.isNone
  | lineStart => before.isNone || before == some '\n'
  | lineEnd => after.isNone || after == some '\n'
  | lineStartCrlf =>
    before.isNone || before == some '\n' || (before == some '\r' && after != some '\n')
  | lineEndCrlf =>
    after.isNone || after == some '\r' || (after == some '\n' && before != some '\r')
  | boundary kind unicode =>
    kind.holds (before.any (isWordChar unicode)) (after.any (isWordChar unicode))

/-! ## 2. Measures -/

/-- Whether the pattern can match the empty text, or nothing at all is known to be longer. -/
def Expr.nullable : Expr → Bool
  | empty => true
  | literal _ => false
  | cls _ => false
  | look _ => true
  | group _ e => e.nullable
  | concat a b => a.nullable && b.nullable
  | alt a b => a.nullable || b.nullable
  | rep min _ _ e => min == 0 || e.nullable

/-- Whether the pattern consumes no character at all. -/
def Expr.zeroWidth : Expr → Bool
  | empty => true
  | literal _ => false
  | cls _ => false
  | look _ => true
  | group _ e => e.zeroWidth
  | concat a b => a.zeroWidth && b.zeroWidth
  | alt a b => a.zeroWidth && b.zeroWidth
  | rep _ max _ e => max == some 0 || e.zeroWidth

/-- The bytes that the compiled pattern takes: a state has 32, and every repetition is written out
as often as it has to match. -/
def Expr.weight : Expr → Nat
  | empty => 32
  | literal c => 32 * c.utf8Size
  | cls c => c.weight
  | look _ => 32
  | group _ e => 64 + e.weight
  | concat a b => a.weight + b.weight
  | alt a b => a.weight + b.weight + 40
  | rep min max _ e =>
    match max with
    | none => Nat.max min 1 * e.weight + 104
    | some m => m * e.weight + (m - min) * 40 + 32

/-- The repetition of a pattern. One that consumes nothing is repeated at most once. -/
def Expr.repeated (e : Expr) (min : Nat) (max : Option Nat) (greedy : Bool) : Expr :=
  let min' := if e.zeroWidth then Nat.min min 1 else min
  let max' := if e.zeroWidth then some (Nat.min (max.getD 1) 1) else max
  if max' == some 0 then empty
  else if min' == 1 && max' == some 1 then e
  else rep min' max' greedy e

end Lettering.Regex
