import Lettering.Regex.Primitive

/-!
# Bracketed classes

Reads a class between brackets: items, ranges, nested brackets, ASCII classes by name, and the
three operators between operands. A stack holds the brackets and operators still open, so nesting
needs no recursion; every round consumes a character.
-/

namespace Lettering.Regex

/-- The operators between the operands of a bracket. -/
inductive SetOp where
  | intersection | difference | symmetricDifference
  deriving DecidableEq, Repr

/-- A class with the depth of its nesting. -/
structure Operand where
  cls : CharClass
  depth : Nat

/-- An open bracket with the items outside it, or an operator with its left operand. -/
inductive BracketFrame where
  | opened (negated : Bool) (outer : List Operand)
  | operator (op : SetOp) (left : Operand)

/-- The items of an operand (last first) as one class. -/
def Operand.ofItems (items : List Operand) : Operand :=
  match items with
  | [] => ⟨.never, 0⟩
  | [item] => item
  | items =>
    ⟨.unionAll (items.reverse.map (·.cls)), 1 + (items.map (·.depth)).foldl Nat.max 0⟩

/-- An operand closed under case where the flags ask for it. -/
def Flags.foldOperand (fl : Flags) (o : Operand) : CharClass :=
  if fl.caseless then (if fl.unicode then .anyCase o.cls else .anyCaseAscii o.cls) else o.cls

/-- The result of an operator. -/
def Flags.applyOp (fl : Flags) (op : SetOp) (left right : Operand) : Operand :=
  let a := fl.foldOperand left
  let b := fl.foldOperand right
  let cls := match op with
    | .intersection => CharClass.inter a b
    | .difference => .diff a b
    | .symmetricDifference => .symmDiff a b
  ⟨cls, 1 + Nat.max left.depth right.depth⟩

/-- Closes the operator on top of the stack, if there is one, with its right operand. -/
def Flags.popOperator (fl : Flags) (stack : List BracketFrame) (right : Operand) :
    Operand × List BracketFrame :=
  match stack with
  | .operator op left :: stack => (fl.applyOp op left right, stack)
  | stack => (right, stack)

/-- Ends the operand at hand with an operator. -/
def Flags.pushOperator (fl : Flags) (op : SetOp) (stack : List BracketFrame)
    (items : List Operand) : List BracketFrame :=
  let (left, stack) := fl.popOperator stack (.ofItems items)
  .operator op left :: stack

/-- Reads hyphens that stand for themselves at the start of a bracket. -/
def Flags.leadingHyphens (fl : Flags) (items : List Operand) :
    Nat → List Char → Option (List Operand × List Char)
  | 0, _ => none
  | fuel + 1, cs =>
    match cs with
    | [] => none
    | '-' :: rest => fl.leadingHyphens (⟨.single '-', 0⟩ :: items) fuel (fl.skip rest)
    | cs => some (items, cs)

/-- Reads the start of a bracket behind `[`: a negation, leading hyphens, and a closing bracket
that stands for itself because it comes first. -/
def Flags.openBracket (fl : Flags) (cs : List Char) :
    Option ((Bool × List Operand) × List Char) := do
  let (negated, cs) := match fl.skip cs with
    | '^' :: rest => (true, fl.skip rest)
    | cs => (false, cs)
  let (items, cs) ← fl.leadingHyphens [] (cs.length + 1) cs
  match items, cs with
  | [], ']' :: rest =>
    let cs := fl.skip rest
    if cs.isEmpty then none else some ((negated, [⟨.single ']', 0⟩]), cs)
  | items, cs => some ((negated, items), cs)

/-- Reads an ASCII class by name behind its first `[`; `none` if there is no such class here. -/
def Flags.asciiClass? (cs : List Char) : Option ((Bool × CharClass) × List Char) :=
  match cs with
  | ':' :: rest =>
    let (negated, rest) := match rest with
      | '^' :: rest => (true, rest)
      | rest => (false, rest)
    match rest.dropWhile (· != ':') with
    | ':' :: ']' :: after =>
      (CharClass.ofAsciiName? (String.ofList (rest.takeWhile (· != ':')))).map fun c =>
        ((negated, c), after)
    | _ => none
  | _ => none

/-- Reads one item without looking for a range. -/
def Flags.bracketPrimitive (fl : Flags) : List Char → Option (Primitive × List Char)
  | [] => none
  | '\\' :: rest => fl.escape rest
  | c :: rest => some (.literal c false, rest)

/-- The character that a primitive stands for inside brackets, if it stands for one. -/
def Flags.bracketChar (fl : Flags) : Primitive → Option Char
  | .literal c _ => fl.classChar c
  | _ => none

/-- The class of a primitive inside brackets; conditions have none. -/
def Flags.bracketClass (fl : Flags) : Primitive → Option CharClass
  | .literal c _ => (fl.classChar c).map .single
  | .cls c => some c
  | .look _ => none

/-- Reads an item or a range. A hyphen makes a range unless a closing bracket or another hyphen
follows it. -/
def Flags.bracketRange (fl : Flags) (cs : List Char) : Option (CharClass × List Char) := do
  let (first, cs) ← fl.bracketPrimitive cs
  match fl.skip cs with
  | [] => none
  | '-' :: rest =>
    if fl.peek rest == some ']' || fl.peek rest == some '-' then
      return (← fl.bracketClass first, '-' :: rest)
    else
      let (second, after) ← fl.bracketPrimitive (fl.skip rest)
      let lo ← fl.bracketChar first
      let hi ← fl.bracketChar second
      if lo ≤ hi then some (.range lo.toNat hi.toNat, after) else none
  | cs => return (← fl.bracketClass first, cs)

/-- Reads on inside the brackets of the stack; `items` are those of the operand at hand. -/
def Flags.bracketLoop (fl : Flags) : Nat → List BracketFrame → List Operand → List Char →
    Option (Operand × List Char)
  | 0, _, _, _ => none
  | fuel + 1, stack, items, cs =>
    match fl.skip cs with
    | [] => none
    | '[' :: rest =>
      match Flags.asciiClass? rest with
      | some ((negated, c), after) => do
        let c ← fl.closeClass negated c
        fl.bracketLoop fuel stack (⟨c, 0⟩ :: items) after
      | none => do
        let ((negated, inner), after) ← fl.openBracket rest
        fl.bracketLoop fuel (.opened negated items :: stack) inner after
    | ']' :: rest =>
      let (operand, stack) := fl.popOperator stack (.ofItems items)
      match stack with
      | .opened negated outer :: stack => do
        let c ← fl.closeClass negated operand.cls
        let closed : Operand := ⟨c, 1 + operand.depth⟩
        if stack.isEmpty then some (closed, rest)
        else fl.bracketLoop fuel stack (closed :: outer) rest
      | _ => none
    | '&' :: '&' :: rest =>
      fl.bracketLoop fuel (fl.pushOperator .intersection stack items) [] rest
    | '-' :: '-' :: rest =>
      fl.bracketLoop fuel (fl.pushOperator .difference stack items) [] rest
    | '~' :: '~' :: rest =>
      fl.bracketLoop fuel (fl.pushOperator .symmetricDifference stack items) [] rest
    | cs => do
      let (c, after) ← fl.bracketRange cs
      fl.bracketLoop fuel stack (⟨c, 0⟩ :: items) after

/-- Reads a bracketed class behind its first `[`. -/
def Flags.bracket (fl : Flags) (cs : List Char) : Option (Operand × List Char) := do
  let ((negated, items), rest) ← fl.openBracket cs
  fl.bracketLoop (rest.length + 1) [.opened negated []] items rest

end Lettering.Regex
