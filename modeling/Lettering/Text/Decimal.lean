/-!
# Numbers in texts

The decimal numbers that indices and group references are written as: one or more digits of ASCII,
an optional `+` before them, leading zeros as one likes, and a value of at most 64 bits.

A number is read back from the digits that it is written with (`readIndex_toDigits`).
-/

namespace Lettering.Text

/-- The value of a digit of ASCII. -/
def digit? (c : Char) : Option Nat :=
  if '0' ≤ c ∧ c ≤ '9' then some (c.toNat - '0'.toNat) else none

/-- The value of a row of digits behind the value of those before it. -/
def readDigitsFrom (value : Nat) : List Char → Option Nat
  | [] => some value
  | c :: rest => (digit? c).bind fun d => readDigitsFrom (10 * value + d) rest

/-- The value of one or more digits. -/
def readDigits : List Char → Option Nat
  | [] => none
  | cs => readDigitsFrom 0 cs

/-- The value of digits with an optional plus sign, if it fits 64 bits. -/
def readIndex (cs : List Char) : Option Nat :=
  let digits := match cs with
    | '+' :: rest => rest
    | cs => cs
  (readDigits digits).filter (· < UInt64.size)

/-! ## Written numbers -/

theorem digit?_digitChar {d : Nat} (h : d < 10) : digit? d.digitChar = some d := by
  revert d
  decide

theorem readDigitsFrom_append (value : Nat) (cs ds : List Char) :
    readDigitsFrom value (cs ++ ds) =
      (readDigitsFrom value cs).bind fun v => readDigitsFrom v ds := by
  induction cs generalizing value with
  | nil => rfl
  | cons c cs ih =>
    rw [List.cons_append, readDigitsFrom, readDigitsFrom]
    cases digit? c with
    | none => rfl
    | some d => exact ih (10 * value + d)

/-- The digits of a number give the number: those before the last one give its tenth. -/
theorem readDigitsFrom_toDigits (n : Nat) : readDigitsFrom 0 (Nat.toDigits 10 n) = some n := by
  induction n using Nat.strongRecOn with
  | _ n ih =>
    have hlast (value : Nat) {d : Nat} (hd : d < 10) :
        readDigitsFrom value [d.digitChar] = some (10 * value + d) := by
      rw [readDigitsFrom, digit?_digitChar hd]
      rfl
    by_cases hn : n < 10
    · rw [Nat.toDigits_of_lt_base hn, hlast 0 hn, Nat.mul_zero, Nat.zero_add]
    · rw [Nat.toDigits_of_base_le (by decide) (Nat.le_of_not_lt hn), readDigitsFrom_append,
        ih (n / 10) (by omega), Option.bind_some, hlast _ (Nat.mod_lt n (by decide)),
        Nat.div_add_mod]

theorem not_mem_toDigits {c : Char} (h : c.isDigit = false) (n : Nat) :
    c ∉ Nat.toDigits 10 n := by
  intro hm
  rw [Nat.isDigit_of_mem_toDigits (by decide) (by decide) hm] at h
  cases h

/-- **A number of 64 bits is read back from its digits.** -/
theorem readIndex_toDigits {n : Nat} (h : n < UInt64.size) :
    readIndex (Nat.toDigits 10 n) = some n := by
  have hread : readDigits (Nat.toDigits 10 n) = some n := by
    unfold readDigits
    split
    · rename_i hnil
      exact absurd hnil Nat.toDigits_ne_nil
    · exact readDigitsFrom_toDigits n
  unfold readIndex
  split
  · rename_i rest hplus
    refine absurd ?_ (not_mem_toDigits (c := '+') rfl n)
    rw [hplus]
    exact List.mem_cons_self
  · dsimp only
    rw [hread, Option.filter_some, if_pos (decide_eq_true h)]

end Lettering.Text
