import Lettering.Json.Value

/-!
# JSON numbers

A number is an optional minus sign, an integer part without leading zeros, and optionally a
fraction and an exponent. Without these two it is an integer, if it fits 64 bits (signed below
zero, unsigned above); minus zero is not an integer.

A number that rounds to infinity as a double has no value. `overflows` decides this exactly, on
the digits and the power of ten, and never writes out a power that the digits cannot bring near
the limit.
-/

namespace Lettering.Json

/-- Whether a character is a digit. -/
def isDigit (c : Char) : Bool := '0' ≤ c && c ≤ '9'

/-- The value of a row of digits. -/
def digitsValue (cs : List Char) : Nat :=
  cs.foldl (fun n c => 10 * n + (c.toNat - '0'.toNat)) 0

/-- The least number that rounds to infinity: half a unit beyond the largest double. -/
def overflowLimit : Nat := Nat.pow 2 1024 - Nat.pow 2 970

/-- Whether `mantissa * 10 ^ exponent` is beyond the doubles; `size` is the number of digits of the
mantissa. -/
def overflows (mantissa size : Nat) (exponent : Int) : Bool :=
  if mantissa = 0 then false
  else if exponent + size < 300 then false
  else if 330 < exponent then true
  else if 0 ≤ exponent then overflowLimit ≤ mantissa * Nat.pow 10 exponent.toNat
  else overflowLimit * Nat.pow 10 (-exponent).toNat ≤ mantissa

/-- The parts of a number: sign, integer digits, fraction digits, exponent, and whether the number
is written as an integer. -/
structure NumberParts where
  negative : Bool
  whole : List Char
  fraction : List Char
  exponent : Int
  integral : Bool

/-- The value of a number of the given parts and spelling. -/
def NumberParts.value (p : NumberParts) (spelling : List Char) : Json :=
  let n := digitsValue p.whole
  if p.integral && !p.negative && n < UInt64.size then .int n
  else if p.integral && p.negative && 0 < n && n ≤ Nat.pow 2 63 then .int (-(n : Int))
  else
    let digits := p.whole ++ p.fraction
    if overflows (digitsValue digits) digits.length (p.exponent - p.fraction.length) then
      .unreadable
    else .real (String.ofList spelling)

/-- Reads the fraction behind an integer part, if there is one. -/
def readFraction (cs : List Char) : Option (List Char × List Char) :=
  match cs with
  | '.' :: rest =>
    match rest.takeWhile isDigit with
    | [] => none
    | digits => some (digits, rest.dropWhile isDigit)
  | cs => some ([], cs)

/-- Reads the digits of an exponent. -/
def readExponentDigits (negative : Bool) (cs : List Char) : Option (Option Int × List Char) :=
  match cs.takeWhile isDigit with
  | [] => none
  | digits =>
    let n : Int := digitsValue digits
    some (some (if negative then -n else n), cs.dropWhile isDigit)

/-- Reads an exponent, if there is one. -/
def readExponent (cs : List Char) : Option (Option Int × List Char) :=
  match cs with
  | c :: rest =>
    if c == 'e' || c == 'E' then
      match rest with
      | '-' :: rest => readExponentDigits true rest
      | '+' :: rest => readExponentDigits false rest
      | rest => readExponentDigits false rest
    else some (none, c :: rest)
  | [] => some (none, [])

/-- Reads a number; the text starts with a digit or a minus sign. -/
def readNumber (cs : List Char) : Option (Json × List Char) := do
  let (negative, body) := match cs with
    | '-' :: rest => (true, rest)
    | cs => (false, cs)
  let whole := match body with
    | '0' :: _ => ['0']
    | body => body.takeWhile isDigit
  if whole.isEmpty then none
  else
    let (fraction, after) ← readFraction (body.drop whole.length)
    let (exponent, after) ← readExponent after
    let parts : NumberParts :=
      ⟨negative, whole, fraction, exponent.getD 0, fraction.isEmpty && exponent.isNone⟩
    some (parts.value (cs.take (cs.length - after.length)), after)

end Lettering.Json
