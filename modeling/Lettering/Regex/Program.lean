import Lettering.Regex.Expr

/-!
# Compiled patterns

A program is an array of instructions; each names the instruction to go on with. A pattern is
compiled backwards, against the instruction that follows it, so only the loop of a repetition is
filled in after its body.

A split tries its first branch before its second. The loop around a body that can match the empty
text is entered through a split of its own: then the way out after an empty round ranks below the
rounds that consume something, as in a repetition written out.
-/

namespace Lettering.Regex

/-- One instruction. -/
inductive Inst where
  | accept
  | char (c : CharClass) (next : Nat)
  | split (first second : Nat)
  | save (slot next : Nat)
  | look (l : Look) (next : Nat)

/-- Instructions, and the one to start with. -/
structure Program where
  insts : Array Inst
  start : Nat

/-- Adds an instruction in front of those that are there. -/
def emit (i : Inst) (insts : Array Inst) : Program := ⟨insts.push i, insts.size⟩

/-- A split that prefers going on with `body` when greedy, and leaving when lazy. -/
def branch (greedy : Bool) (body exit : Nat) : Inst :=
  if greedy then .split body exit else .split exit body

/-- Compiles `count` copies by `one`, the last of which goes on with `next`. -/
def copies (one : Nat → Array Inst → Program) (next : Nat) (insts : Array Inst) : Nat → Program
  | 0 => ⟨insts, next⟩
  | count + 1 =>
    let p := one next insts
    copies one p.start p.insts count

/-- Compiles `count` copies by `one`, nested so that each can be left out with those after it. -/
def optionals (one : Nat → Array Inst → Program) (greedy : Bool) (exit next : Nat)
    (insts : Array Inst) : Nat → Program
  | 0 => ⟨insts, next⟩
  | count + 1 =>
    let body := one next insts
    let p := emit (branch greedy body.start exit) body.insts
    optionals one greedy exit p.start p.insts count

/-- Compiles a loop: the body goes back to the split, which leads into the body or on. The answer
starts at the split, and the second number is the start of the body. -/
def loop (one : Nat → Array Inst → Program) (greedy : Bool) (next : Nat) (insts : Array Inst) :
    Program × Nat :=
  let split := insts.size
  let body := one split (insts.push .accept)
  (⟨body.insts.setIfInBounds split (branch greedy body.start next), split⟩, body.start)

/-- Compiles a pattern that goes on with instruction `next`. -/
def Expr.compile : Expr → Nat → Array Inst → Program
  | empty, next, insts => ⟨insts, next⟩
  | literal c, next, insts => emit (.char (.single c) next) insts
  | cls c, next, insts => emit (.char c next) insts
  | look l, next, insts => emit (.look l next) insts
  | group index e, next, insts =>
    let closing := emit (.save (2 * index + 1) next) insts
    let body := e.compile closing.start closing.insts
    emit (.save (2 * index) body.start) body.insts
  | concat a b, next, insts =>
    let second := b.compile next insts
    a.compile second.start second.insts
  | alt a b, next, insts =>
    let second := b.compile next insts
    let first := a.compile next second.insts
    emit (.split first.start second.start) first.insts
  | rep min max greedy e, next, insts =>
    match max with
    | some m =>
      let tail := optionals e.compile greedy next next insts (m - min)
      copies e.compile tail.start tail.insts min
    | none =>
      let (round, body) := loop e.compile greedy next insts
      if min == 0 then
        if e.nullable then emit (branch greedy body next) round.insts else round
      else copies e.compile body round.insts (min - 1)

/-- The program of a whole pattern: it records where the match starts and ends. -/
def Expr.program (e : Expr) : Program := (group 0 e).compile 0 #[.accept]

end Lettering.Regex
