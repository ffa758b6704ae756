import Lettering.CodePoint
import Lettering.Regex.Expr
import Lettering.Regex.ClassName

/-!
# Flags and primitives of the pattern language

What stands for one position: a character, an escape, a class by name, a condition. Reading works
on lists of characters and gives the rest back; `none` means that the pattern is invalid.

In verbose patterns, blanks and comments up to the end of the line are skipped between tokens and
also inside the braces of an escape.
-/

namespace Lettering.Regex

/-- The flags in force at a place of a pattern. -/
structure Flags where
  caseless : Bool := false
  multiLine : Bool := false
  dotAll : Bool := false
  swapGreed : Bool := false
  unicode : Bool := true
  verbose : Bool := false
  crlf : Bool := false
  deriving DecidableEq, Repr

/-! ## 1. Skipping and gathering -/

/-- Drops blanks and comments; `comment` says that a comment is open. -/
def skipBlanks : Bool → List Char → List Char
  | _, [] => []
  | true, c :: rest => skipBlanks (c != '\n') rest
  | false, c :: rest =>
    if Unicode.isBlank c.toNat then skipBlanks false rest
    else if c == '#' then skipBlanks true rest
    else c :: rest

/-- What a verbose pattern skips; other patterns skip nothing. -/
def Flags.skip (fl : Flags) (cs : List Char) : List Char :=
  if fl.verbose then skipBlanks false cs else cs

/-- Characters up to the first that satisfies `stop`, skipping between them. -/
def Flags.gather (fl : Flags) (stop : Char → Bool) : Nat → List Char → List Char × List Char
  | 0, cs => ([], cs)
  | _ + 1, [] => ([], [])
  | fuel + 1, c :: rest =>
    if stop c then ([], c :: rest)
    else
      let (more, after) := fl.gather stop fuel (fl.skip rest)
      (c :: more, after)

/-- The character behind the next one, past blanks in a verbose pattern. -/
def Flags.peek (fl : Flags) (rest : List Char) : Option Char :=
  if fl.verbose then
    match rest.dropWhile fun c => Unicode.isBlank c.toNat with
    | [] => rest.head?
    | '#' :: more =>
      match more.dropWhile fun c => Unicode.isBlank c.toNat with
      | [] => rest.head?
      | c :: _ => some c
    | c :: _ => some c
  else rest.head?

/-! ## 2. Primitives -/

/-- One primitive. `byte` marks a character written as two hexadecimal digits, which stands for a
byte where Unicode is off. -/
inductive Primitive where
  | literal (c : Char) (byte : Bool)
  | look (l : Look)
  | cls (c : CharClass)

/-- The value of a hexadecimal digit. -/
def hexValue? (c : Char) : Option Nat :=
  if '0' ≤ c ∧ c ≤ '9' then some (c.toNat - '0'.toNat)
  else if 'a' ≤ c ∧ c ≤ 'f' then some (c.toNat - 'a'.toNat + 10)
  else if 'A' ≤ c ∧ c ≤ 'F' then some (c.toNat - 'A'.toNat + 10)
  else none

/-- The character whose number is written in hexadecimal. -/
def hexChar? (digits : List Char) : Option Char := do
  let values ← digits.mapM hexValue?
  if values.isEmpty then none
  else (CodePoint.toChar? (values.foldl (fun n d => 16 * n + d) 0))

/-- Reads a fixed number of hexadecimal digits. -/
def Flags.hexDigits (fl : Flags) : Nat → List Char → Option (List Char × List Char)
  | 0, cs => some ([], cs)
  | count + 1, cs =>
    match cs with
    | [] => none
    | c :: rest => do
      let (more, after) ← fl.hexDigits count (fl.skip rest)
      return (c :: more, after)

/-- Reads what follows the letter of a hexadecimal escape that has `count` digits without
braces. -/
def Flags.hexEscape (fl : Flags) (count : Nat) (cs : List Char) :
    Option (Primitive × List Char) :=
  match fl.skip cs with
  | [] => none
  | '\x7b' :: rest =>
    match fl.gather (· == '\x7d') rest.length (fl.skip rest) with
    | (digits, _ :: after) => (hexChar? digits).map fun c => (.literal c false, fl.skip after)
    | (_, []) => none
  | cs => do
    let (digits, after) ← fl.hexDigits count cs
    let c ← hexChar? digits
    return (.literal c (count == 2), after)

/-- A class written by name, negated or not. Where Unicode is off, it must stay within ASCII. -/
def Flags.closeClass (fl : Flags) (negated : Bool) (c : CharClass) : Option CharClass :=
  let folded :=
    if fl.caseless then (if fl.unicode then .anyCase c else .anyCaseAscii c) else c
  let result : CharClass := if negated then .compl folded else folded
  if !fl.unicode && result.hasHighByte then none else some result

/-- Reads what follows the letter of a Unicode class. -/
def Flags.unicodeClass (fl : Flags) (negated : Bool) (cs : List Char) :
    Option (Primitive × List Char) :=
  if !fl.unicode then none
  else match fl.skip cs with
  | [] => none
  | '\x7b' :: rest =>
    match fl.gather (· == '\x7d') rest.length (fl.skip rest) with
    | (name, _ :: after) => do
      let c ← CharClass.ofUnicodeName? name
      return (.cls (← fl.closeClass negated c), after)
    | (_, []) => none
  | c :: rest =>
    if c == '\\' then none
    else do
      let c ← CharClass.ofName? (CharClass.normalName [c])
      return (.cls (← fl.closeClass negated c), fl.skip rest)

/-- A one-letter class. It has every case of its characters already. -/
def Flags.letterClass (fl : Flags) (negated : Bool) (c : CharClass) (rest : List Char) :
    Option (Primitive × List Char) :=
  ({ fl with caseless := false }.closeClass negated c).map fun c => (.cls c, rest)

/-- The boundary that a name in braces asks for. -/
def Boundary.ofName? (name : List Char) : Option Boundary :=
  [("start", start), ("end", finish), ("start-half", startHalf), ("end-half", finishHalf)].lookup
    (String.ofList name)

/-- Whether a character may occur in the name of a boundary. -/
def isBoundaryChar (c : Char) : Bool := c.isAlpha || c == '-'

/-- Reads a word boundary, with its name in braces if one follows. Braces that start otherwise are
left to be read as a repetition. -/
def Flags.wordBoundary (fl : Flags) (cs : List Char) : Option (Primitive × List Char) :=
  let plain : Option (Primitive × List Char) := some (.look (.boundary .edge fl.unicode), cs)
  match cs with
  | '\x7b' :: rest =>
    match fl.skip rest with
    | [] => none
    | c :: more =>
      if isBoundaryChar c then
        match fl.gather (!isBoundaryChar ·) rest.length (c :: more) with
        | (name, '\x7d' :: after) =>
          (Boundary.ofName? name).map fun kind => (.look (.boundary kind fl.unicode), after)
        | _ => none
      else plain
  | _ => plain

/-- The characters that have a meaning of their own somewhere in a pattern. -/
def isMeta (c : Char) : Bool :=
  ['\\', '.', '+', '*', '?', '(', ')', '|', '[', ']', '\x7b', '\x7d', '^', '$', '#', '&', '-',
    '~'].contains c

/-- Whether a backslash before the character makes it stand for itself. -/
def isEscapable (c : Char) : Bool :=
  isMeta c || (c.toNat < 128 && !c.isAlphanum && c != '<' && c != '>')

/-- Reads what follows a backslash. -/
def Flags.escape (fl : Flags) : List Char → Option (Primitive × List Char)
  | [] => none
  | c :: rest =>
    match c with
    | 'x' => fl.hexEscape 2 rest
    | 'u' => fl.hexEscape 4 rest
    | 'U' => fl.hexEscape 8 rest
    | 'p' => fl.unicodeClass false rest
    | 'P' => fl.unicodeClass true rest
    | 'd' => fl.letterClass false (.digit fl.unicode) rest
    | 'D' => fl.letterClass true (.digit fl.unicode) rest
    | 's' => fl.letterClass false (.space fl.unicode) rest
    | 'S' => fl.letterClass true (.space fl.unicode) rest
    | 'w' => fl.letterClass false (.word fl.unicode) rest
    | 'W' => fl.letterClass true (.word fl.unicode) rest
    | 'a' => some (.literal '\x07' false, rest)
    | 'f' => some (.literal '\x0c' false, rest)
    | 't' => some (.literal '\t' false, rest)
    | 'n' => some (.literal '\n' false, rest)
    | 'r' => some (.literal '\r' false, rest)
    | 'v' => some (.literal '\x0b' false, rest)
    | 'A' => some (.look .textStart, rest)
    | 'z' => some (.look .textEnd, rest)
    | 'b' => fl.wordBoundary rest
    | 'B' => some (.look (.boundary .noEdge fl.unicode), rest)
    | '<' => some (.look (.boundary .start fl.unicode), rest)
    | '>' => some (.look (.boundary .finish fl.unicode), rest)
    | c => if isEscapable c then some (.literal c false, rest) else none

/-- The class of one character inside brackets. -/
def Flags.classChar (fl : Flags) (c : Char) : Option Char :=
  if fl.unicode || c.toNat < 128 then some c else none

/-- The pattern of one character outside brackets. -/
def Flags.literalExpr (fl : Flags) (c : Char) (byte : Bool) : Option Expr :=
  if fl.unicode then
    if fl.caseless && (Unicode.caseVariants c.toNat).length > 1 then
      some (.cls (.anyCase (.single c)))
    else some (.literal c)
  else if byte && c.toNat ≥ 128 then none
  else if fl.caseless && c.isAlpha then some (.cls (.anyCaseAscii (.single c)))
  else some (.literal c)

/-- The pattern of a primitive outside brackets. -/
def Flags.primitiveExpr (fl : Flags) : Primitive → Option Expr
  | .literal c byte => fl.literalExpr c byte
  | .look l => some (.look l)
  | .cls c => some (.cls c)

/-- The pattern of a dot: any character, but no line break unless the flags say so. -/
def Flags.dot (fl : Flags) : Option Expr :=
  if !fl.unicode then none
  else if fl.dotAll then some (.cls .any)
  else if fl.crlf then some (.cls (.diff .any (.ofPairs [('\r', '\r'), ('\n', '\n')])))
  else some (.cls (.diff .any (.single '\n')))

/-- The condition of a caret. -/
def Flags.caret (fl : Flags) : Look :=
  if !fl.multiLine then .textStart else if fl.crlf then .lineStartCrlf else .lineStart

/-- The condition of a dollar sign. -/
def Flags.dollar (fl : Flags) : Look :=
  if !fl.multiLine then .textEnd else if fl.crlf then .lineEndCrlf else .lineEnd

end Lettering.Regex
