import Lettering.Dictionary
import Lettering.Interval.Error

/-!
# Shifts

A shift moves every code point of an interval by the same distance.

* Keys and distances are added as signed 64-bit numbers (`Shift.sum`): a sum past the largest of
  these, 9223372036854775807, goes on from the smallest, and so is negative.
* The interval is never empty, and its first key is moved neither below zero nor past the 64-bit
  numbers; these facts are part of the type.
* `image` is where a key goes. Past the last code point it is out of range, and a surrogate is
  reported as what it is.
* `inverse` moves everything back: the interval shifted, the distance negated.
-/

namespace Lettering

/-- The keys from `start` to `finish`, each moved by `offset`. -/
structure Shift where
  start : UInt32
  finish : UInt32
  offset : Int
  ordered : start.toNat ≤ finish.toNat
  startsAtLeastZero : 0 ≤ (start.toNat : Int) + offset
  startsInWord : (start.toNat : Int) + offset < 9223372036854775808
  deriving DecidableEq

namespace Shift

/-! ## 1. Sums -/

/-- The sum of a key and a distance as a signed 64-bit number: past the largest one it goes on from
the smallest. -/
def sum (key : Nat) (offset : Int) : Int := ((key : Int) + offset).bmod 18446744073709551616

/-- A sum that is a 64-bit number is the sum. -/
theorem sum_eq {key : Nat} {offset : Int} (hlow : -9223372036854775808 ≤ (key : Int) + offset)
    (hhigh : (key : Int) + offset < 9223372036854775808) : sum key offset = key + offset :=
  Int.bmod_eq_of_le (by omega) (by omega)

/-- One past the 64-bit numbers is negative. -/
theorem sum_eq_sub {key : Nat} {offset : Int} (hlow : 9223372036854775808 ≤ (key : Int) + offset)
    (hhigh : (key : Int) + offset < 18446744073709551616) :
    sum key offset = key + offset - 18446744073709551616 := by
  rw [sum, Int.bmod_def]
  omega

/-- With a 32-bit key and a 64-bit distance no sum comes around to a 32-bit number. -/
theorem sum_eq_natCast_iff {key n : Nat} {offset : Int} (hkey : key < 4294967296)
    (hn : n < 4294967296) (hlow : -9223372036854775808 ≤ offset)
    (hhigh : offset ≤ 9223372036854775808) :
    sum key offset = n ↔ (key : Int) + offset = n := by
  rw [sum, Int.bmod_def]
  omega

/-- So it is not negative exactly if the numbers themselves add up to a 64-bit number that is not. -/
theorem sum_nonneg_iff {key : Nat} {offset : Int} (hkey : key < 4294967296)
    (hlow : -9223372036854775808 ≤ offset) (hhigh : offset < 9223372036854775808) :
    0 ≤ sum key offset ↔ 0 ≤ (key : Int) + offset ∧ (key : Int) + offset < 9223372036854775808 := by
  rw [sum, Int.bmod_def]
  omega

/-! ## 2. Building -/

/-- The shift of the given parts, the distance a 64-bit number. -/
def make (start finish : UInt32) (offset : Int) : Except BuildError Shift :=
  if h : start.toNat ≤ finish.toNat then
    -- a sum past the 64-bit numbers is negative too (`sum_nonneg_iff`)
    if h0 : 0 ≤ (start.toNat : Int) + offset ∧
        (start.toNat : Int) + offset < 9223372036854775808 then
      .ok ⟨start, finish, offset, h, h0.1, h0.2⟩
    else .error (.negativeStart start.toNat offset)
  else .error (.startAfterEnd start.toNat finish.toNat)

/-- A bound moved by the distance, if the result is still a 32-bit number. -/
def moveBound (l : Shift) (bound : UInt32) : Except BuildError UInt32 :=
  let moved := sum bound.toNat l.offset
  if 0 ≤ moved ∧ moved < UInt32.size then .ok (UInt32.ofNat moved.toNat)
  else .error (.shiftOverflow bound.toNat l.offset)

/-- What a key of 32 bits is moved to is no other number of 32 bits than its sum. -/
theorem sum_offset_iff (l : Shift) {key n : Nat} (hkey : key < 4294967296) (hn : n < 4294967296) :
    sum key l.offset = n ↔ (key : Int) + l.offset = n := by
  have hstart : l.start.toNat < 4294967296 := l.start.toNat_lt
  have hlow := l.startsAtLeastZero
  have hhigh := l.startsInWord
  exact sum_eq_natCast_iff hkey hn (by omega) (by omega)

theorem moveBound_eq_ok_iff {l : Shift} {bound moved : UInt32} :
    l.moveBound bound = .ok moved ↔ (moved.toNat : Int) = bound.toNat + l.offset := by
  rw [eq_comm (a := (moved.toNat : Int)), ← l.sum_offset_iff bound.toNat_lt moved.toNat_lt]
  have hword : moved.toNat < UInt32.size := moved.toNat_lt
  unfold moveBound
  dsimp only
  constructor
  · intro h
    split at h
    · rename_i hr
      obtain rfl := Except.ok.inj h
      rw [UInt32.toNat_ofNat_of_lt' (by omega)]
      omega
    · cases h
  · intro h
    rw [if_pos (by omega), h, Int.toNat_natCast, UInt32.ofNat_toNat]

/-- The shift that takes every image back to its key. -/
def inverse (l : Shift) : Except BuildError Shift :=
  match hs : l.moveBound l.start, hf : l.moveBound l.finish with
  | .error e, _ => .error e
  | .ok _, .error e => .error e
  | .ok start, .ok finish => .ok
    { start
      finish
      offset := -l.offset
      ordered := by
        have h1 := moveBound_eq_ok_iff.1 hs
        have h2 := moveBound_eq_ok_iff.1 hf
        have h3 := l.ordered
        omega
      startsAtLeastZero := by
        have h1 := moveBound_eq_ok_iff.1 hs
        omega
      startsInWord := by
        have h1 := moveBound_eq_ok_iff.1 hs
        have h2 : l.start.toNat < 4294967296 := l.start.toNat_lt
        omega }

/-- The inverse of the shift of the given parts. -/
def makeInverse (start finish : UInt32) (offset : Int) : Except BuildError Shift := do
  (← make start finish offset).inverse

/-! ## 3. Answers -/

/-- Whether a key lies in the interval. -/
def covers (l : Shift) (key : Nat) : Bool :=
  l.start.toNat ≤ key && key ≤ l.finish.toNat

/-- The character that a key moves to. -/
def image (l : Shift) (key : Nat) : Except LookupError Char :=
  if l.covers key then
    let result := sum key l.offset
    if result < 0 then .error (.invalidResult key result)
    else if (CodePoint.max : Int) < result then .error (.outOfRange key)
    else match CodePoint.toChar? result.toNat with
      | some c => .ok c
      | none => .error (.notACharacter key result.toNat)
  else .error (.outOfRange key)

/-- The answer for a key, as a text of one character. -/
def answer (l : Shift) (key : Nat) : Except LookupError String :=
  (l.image key).map String.singleton

/-! ## 4. Writing the interval out -/

/-- The images of `count` keys from `key` on, behind those already collected (last first). -/
def collect (l : Shift) (key : Nat) (acc : List (Nat × Char)) :
    Nat → Except LookupError (List (Nat × Char))
  | 0 => .ok acc.reverse
  | count + 1 =>
    match l.image key with
    | .ok c => l.collect (key + 1) ((key, c) :: acc) count
    | .error e => .error e

/-- Every key of the interval with its image, keys ascending; fails at the first key without
one. -/
def entries (l : Shift) : Except LookupError (List (Nat × Char)) :=
  l.collect l.start.toNat [] (l.finish.toNat - l.start.toNat + 1)

/-- The entries written into a dictionary, or nothing at all when one key has no image. -/
def writeInto (l : Shift) (target : Dictionary) : Except LookupError Dictionary := do
  let entries ← l.entries
  return target.insertMany (entries.map fun e => (.codePoint e.1, String.singleton e.2))

/-- The entries as a dictionary of their own. -/
def toDictionary (l : Shift) : Except LookupError Dictionary := l.writeInto .empty

end Shift

end Lettering
