/-!
# Code points

Keys are plain numbers. A number reads as a character only below the surrogates or between them
and U+10FFFF; `toChar?` is that reading, and `hex` is how an error names a key.
-/

namespace Lettering.CodePoint

/-- The last code point. -/
def max : Nat := 0x10FFFF

/-- The character at a code point, if the number is that of a character. -/
def toChar? (n : Nat) : Option Char :=
  if h : n.isValidChar then some (Char.ofNatAux n h) else none

/-- Upper-case hexadecimal digits behind `0x`, without padding. -/
def hex (n : Nat) : String :=
  "0x" ++ String.ofList ((Nat.toDigits 16 n).map Char.toUpper)

theorem toChar?_eq_none_iff (n : Nat) : toChar? n = none ↔ ¬ n.isValidChar := by
  unfold toChar?
  by_cases h : n.isValidChar
  · rw [dif_pos h]
    constructor
    · intro hn
      cases hn
    · intro hn
      exact absurd h hn
  · rw [dif_neg h]
    exact ⟨fun _ => h, fun _ => rfl⟩

/-- Reading back the number of a character gives the character. -/
@[simp] theorem toChar?_toNat (c : Char) : toChar? c.toNat = some c := by
  have h : c.toNat.isValidChar := c.valid
  rw [toChar?, dif_pos h]
  exact congrArg some (Char.ext rfl)

theorem toNat_of_toChar? {n : Nat} {c : Char} (h : toChar? n = some c) : c.toNat = n := by
  unfold toChar? at h
  by_cases hv : n.isValidChar
  · rw [dif_pos hv] at h
    cases h
    rfl
  · rw [dif_neg hv] at h
    cases h

end Lettering.CodePoint
