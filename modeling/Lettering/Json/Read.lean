import Lettering.CodePoint
import Lettering.Json.Number

/-!
# Reading JSON texts

A strict reader: one value with blanks around it and nothing else, no comments, no trailing
commas, no control characters inside strings. The texts of strings and numbers without a value are
accepted and read as `unreadable`; so is an object in which a name is such a string.

The fuel counts the values and items begun; each takes a character of the text, so the length of
the text is enough.
-/

namespace Lettering.Json

/-- Whether a character may stand between the tokens of a text. -/
def isBlank (c : Char) : Bool := c == ' ' || c == '\t' || c == '\n' || c == '\r'

/-- Drops the blanks before a token. -/
def skipBlanks (cs : List Char) : List Char := cs.dropWhile isBlank

/-! ## 1. Strings -/

/-- The value of a hexadecimal digit. -/
def hexValue? (c : Char) : Option Nat :=
  if '0' ≤ c ∧ c ≤ '9' then some (c.toNat - '0'.toNat)
  else if 'a' ≤ c ∧ c ≤ 'f' then some (c.toNat - 'a'.toNat + 10)
  else if 'A' ≤ c ∧ c ≤ 'F' then some (c.toNat - 'A'.toNat + 10)
  else none

/-- The value of four hexadecimal digits. -/
def hexUnit? (a b c d : Char) : Option Nat := do
  return (((← hexValue? a) * 16 + (← hexValue? b)) * 16 + (← hexValue? c)) * 16 + (← hexValue? d)

/-- The character of a short escape. -/
def shortEscape? (c : Char) : Option Char :=
  match c with
  | '"' => some '"'
  | '\\' => some '\\'
  | '/' => some '/'
  | 'b' => some '\x08'
  | 'f' => some '\x0c'
  | 'n' => some '\n'
  | 'r' => some '\r'
  | 't' => some '\t'
  | _ => none

/-- One step inside a string. -/
inductive StringPiece where
  | char (c : Char)
  | half (unit : Nat)
  | finish

/-- Reads one character, escape or closing quote. -/
def readPiece : List Char → Option (StringPiece × List Char)
  | [] => none
  | '"' :: rest => some (.finish, rest)
  | '\\' :: 'u' :: a :: b :: c :: d :: rest =>
    (hexUnit? a b c d).map fun unit =>
      match CodePoint.toChar? unit with
      | some c => (.char c, rest)
      | none => (.half unit, rest)
  | '\\' :: c :: rest => (shortEscape? c).map fun c => (.char c, rest)
  | c :: rest => if c < ' ' then none else some (.char c, rest)

/-- The character of a surrogate pair. -/
def pairChar? (high low : Nat) : Option Char :=
  if 0xD800 ≤ high ∧ high < 0xDC00 ∧ 0xDC00 ≤ low ∧ low < 0xE000 then
    CodePoint.toChar? ((high - 0xD800) * 0x400 + (low - 0xDC00) + 0x10000)
  else none

/-- Reads to the closing quote. The characters so far are in `done`, last first; it is `none` once
a half of a pair was left alone. `pending` is a first half that waits for the second. -/
def readStringFrom (done : Option (List Char)) (pending : Option Nat) :
    Nat → List Char → Option (Option String × List Char)
  | 0, _ => none
  | fuel + 1, cs =>
    match readPiece cs with
    | none => none
    | some (piece, rest) =>
      let lone := if pending.isSome then none else done
      match piece with
      | .finish => some (lone.map fun cs => String.ofList cs.reverse, rest)
      | .char c => readStringFrom (lone.map (c :: ·)) none fuel rest
      | .half unit =>
        match pending.bind (pairChar? · unit) with
        | some c => readStringFrom (done.map (c :: ·)) none fuel rest
        | none =>
          if unit < 0xDC00 then readStringFrom lone (some unit) fuel rest
          else readStringFrom none none fuel rest

/-- Reads a string behind its opening quote; the string is `none` if it has no value. -/
def readString (cs : List Char) : Option (Option String × List Char) :=
  readStringFrom (some []) none (cs.length + 1) cs

/-! ## 2. Values -/

/-- Takes a word off the front. -/
def expect (word : List Char) (cs : List Char) : Option (List Char) :=
  if word.isPrefixOf cs then some (cs.drop word.length) else none

/-- The object of members (last first), if every name has a value. -/
def closeObject (members : List (Option String × Json)) : Json :=
  match members.reverse.mapM fun m => m.1.map (·, m.2) with
  | some members => .obj members
  | none => .unreadable

mutual

/-- Reads a value, blanks before it allowed. -/
def readValue : Nat → List Char → Option (Json × List Char)
  | 0, _ => none
  | fuel + 1, cs =>
    match skipBlanks cs with
    | [] => none
    | c :: rest =>
      match c with
      | '[' =>
        match skipBlanks rest with
        | ']' :: after => some (.arr [], after)
        | rest => readItems [] fuel rest
      | '\x7b' =>
        match skipBlanks rest with
        | '\x7d' :: after => some (.obj [], after)
        | rest => readMembers [] fuel rest
      | '"' => (readString rest).map fun (s, after) =>
          (match s with
            | some s => .str s
            | none => .unreadable, after)
      | 't' => (expect ['r', 'u', 'e'] rest).map (.bool true, ·)
      | 'f' => (expect ['a', 'l', 's', 'e'] rest).map (.bool false, ·)
      | 'n' => (expect ['u', 'l', 'l'] rest).map (.null, ·)
      | c => if isDigit c || c == '-' then readNumber (c :: rest) else none

/-- Reads the items of an array from the next one on. -/
def readItems (done : List Json) : Nat → List Char → Option (Json × List Char)
  | 0, _ => none
  | fuel + 1, cs =>
    match readValue fuel cs with
    | none => none
    | some (item, rest) =>
      match skipBlanks rest with
      | ',' :: rest => readItems (item :: done) fuel rest
      | ']' :: rest => some (.arr (item :: done).reverse, rest)
      | _ => none

/-- Reads the members of an object from the next one on. -/
def readMembers (done : List (Option String × Json)) : Nat → List Char → Option (Json × List Char)
  | 0, _ => none
  | fuel + 1, cs =>
    match skipBlanks cs with
    | '"' :: rest =>
      match readString rest with
      | none => none
      | some (name, rest) =>
        match skipBlanks rest with
        | ':' :: rest =>
          match readValue fuel rest with
          | none => none
          | some (value, rest) =>
            match skipBlanks rest with
            | ',' :: rest => readMembers ((name, value) :: done) fuel rest
            | '\x7d' :: rest => some (closeObject ((name, value) :: done), rest)
            | _ => none
        | _ => none
    | _ => none

end

/-- The value of a whole text. -/
def read? (text : String) : Option Json :=
  let cs := text.toList
  match readValue (cs.length + 1) cs with
  | some (value, rest) => if (skipBlanks rest).isEmpty then some value else none
  | none => none

end Lettering.Json
