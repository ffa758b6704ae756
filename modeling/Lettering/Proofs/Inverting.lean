import Lettering.Proofs.WritingOut

/-!
# Shifts taken back

The inverse of a shift moves every image back to its key. It exists as long as the last key of the
interval is moved to a number of 32 bits.

* `Mirrors`: two shifts of which each moves the interval of the other back. The relation is
  symmetric, and `inverse_eq_ok_iff` says that inverting a shift gives the one that mirrors it; so
  what holds of the inverse holds both ways.
* `Mirrors.image_iff`: an image under the one is a key of the other.
* `image_fails_iff`: what comes of a key without an image; with the images themselves this is all
  that a key can come to (`places`). A sum past the 64-bit numbers is a case of its own, which no
  shift that can be inverted has.
* `inverse_exact` puts these together.
-/

namespace Lettering.Shift

open CodePoint

/-! ## 1. Mirrored shifts -/

/-- The interval of one shift is that of the other moved, and the distance is turned around. -/
structure Mirrors (l r : Shift) : Prop where
  start : (r.start.toNat : Int) = l.start.toNat + l.offset
  finish : (r.finish.toNat : Int) = l.finish.toNat + l.offset
  offset : r.offset = -l.offset

theorem Mirrors.symm {l r : Shift} (h : l.Mirrors r) : r.Mirrors l where
  start := by
    have hstart := h.start
    have hoffset := h.offset
    omega
  finish := by
    have hfinish := h.finish
    have hoffset := h.offset
    omega
  offset := by
    rw [h.offset, Int.neg_neg]

/-- The last key of a mirrored shift is moved to one of the other. -/
theorem Mirrors.fits {l r : Shift} (h : l.Mirrors r) : l.Fits := by
  have hfinish := h.finish
  have hword : r.finish.toNat < 4294967296 := r.finish.toNat_lt
  unfold Fits
  omega

/-- **The inverse of a shift is the one that mirrors it.** -/
theorem inverse_eq_ok_iff {l r : Shift} : l.inverse = .ok r ↔ l.Mirrors r := by
  constructor
  · intro h
    obtain ⟨hstart, hfinish, hoffset⟩ := inverse_ok h
    exact ⟨hstart, hfinish, hoffset⟩
  · intro h
    have hstart := moveBound_eq_ok_iff.2 h.start
    have hfinish := moveBound_eq_ok_iff.2 h.finish
    have hoffset := h.offset
    obtain ⟨start, finish, offset, ordered, startsAtLeastZero, startsInWord⟩ := r
    unfold inverse
    split
    · rename_i he
      cases he.symm.trans hstart
    · rename_i he
      cases he.symm.trans hfinish
    · rename_i hs hf
      cases hs.symm.trans hstart
      cases hf.symm.trans hfinish
      cases hoffset
      rfl

/-- There is an inverse exactly if the last key is moved to a number of 32 bits. -/
theorem exists_inverse_iff {l : Shift} :
    (∃ r, l.inverse = .ok r) ↔ (l.finish.toNat : Int) + l.offset < UInt32.size := by
  constructor
  · rintro ⟨r, h⟩
    have hfinish := (inverse_eq_ok_iff.1 h).finish
    have hword : r.finish.toNat < UInt32.size := r.finish.toNat_lt
    omega
  · intro hfits
    have hordered := l.ordered
    have hzero := l.startsAtLeastZero
    have hkey : l.start.toNat < 4294967296 := l.start.toNat_lt
    obtain ⟨start, hstart⟩ := exists_word hzero (by omega)
    obtain ⟨finish, hfinish⟩ := exists_word (n := l.finish.toNat + l.offset) (by omega) hfits
    exact ⟨⟨start, finish, -l.offset, by omega, by omega, by omega⟩,
      inverse_eq_ok_iff.2 ⟨hstart, hfinish, rfl⟩⟩

/-- **An image under one of two mirrored shifts is a key of the other.** -/
theorem Mirrors.image_iff {l r : Shift} (h : l.Mirrors r) (c d : Char) :
    l.image c.toNat = .ok d ↔ r.image d.toNat = .ok c := by
  have hstart := h.start
  have hfinish := h.finish
  have hoffset := h.offset
  rw [image_eq_ok_iff, image_eq_ok_iff, covers_iff, covers_iff]
  constructor
  · rintro ⟨hin, hd⟩
    omega
  · rintro ⟨hin, hc⟩
    omega

/-! ## 2. Every key -/

/-- Whether a key lies in the interval and is moved to a number that a character or a surrogate
has. -/
def Lands (l : Shift) (key : Nat) : Prop :=
  (l.start.toNat ≤ key ∧ key ≤ l.finish.toNat) ∧
    (IsCharacter (key + l.offset) ∨ IsSurrogate (key + l.offset))

/-- **A key without an image** lies outside the interval, or something is wrong with the number that
it is moved to. -/
theorem image_fails_iff {l : Shift} {key : Nat} {e : LookupError} :
    l.image key = .error e ↔
      (l.start.toNat ≤ key ∧ key ≤ l.finish.toNat) ∧ Misses key (key + l.offset) e ∨
        ¬ (l.start.toNat ≤ key ∧ key ≤ l.finish.toNat) ∧ e = .outOfRange key := by
  rw [← covers_iff]
  by_cases hc : l.covers key = true
  · rw [image_eq_error_iff, answer_eq_error_iff hc]
    simp only [hc, true_and, not_true_eq_false, false_and, or_false]
  · unfold image
    rw [if_neg hc]
    rw [Except.error.injEq, or_iff_right fun h => hc h.1, and_iff_right hc]
    exact eq_comm

/-- A key is out of range exactly if it does not land, as long as sums are 64-bit numbers. -/
theorem Fits.outOfRange_iff {l : Shift} (hfits : l.Fits) {key : Nat} :
    l.image key = .error (.outOfRange key) ↔ ¬ l.Lands key := by
  rw [image_fails_iff]
  unfold Lands
  by_cases hin : l.start.toNat ≤ key ∧ key ≤ l.finish.toNat
  · have hzero := number_nonneg (covers_iff.2 hin)
    have hword := hfits.number_lt (covers_iff.2 hin)
    have hpast : (CodePoint.max : Int) < key + l.offset ↔
        ¬ (IsCharacter (key + l.offset) ∨ IsSurrogate (key + l.offset)) := by
      rw [isCharacter_iff]
      unfold IsSurrogate CodePoint.max
      omega
    simp only [hin, Misses, hword, hpast, reduceCtorEq, and_self, true_and, and_true, and_false,
      not_true_eq_false, or_false]
  · simp only [hin, false_and, false_or, not_false_eq_true, and_self]

/-- What is said about the image of a key: it is the character at the number that the key is moved
to, and otherwise the answer says what is wrong. -/
structure Places (l : Shift) (key : Nat) : Prop where
  /-- There is an image exactly for a key of the interval that is moved to a character, -/
  defined : (∃ d, l.image key = .ok d) ↔
    (l.start.toNat ≤ key ∧ key ≤ l.finish.toNat) ∧ IsCharacter (key + l.offset)
  /-- and it is this character. -/
  value {d : Char} : l.image key = .ok d → (d.toNat : Int) = key + l.offset
  /-- A key of the interval that is moved to a surrogate is reported with it. -/
  surrogate {n : Nat} : l.image key = .error (.notACharacter key n) ↔
    (l.start.toNat ≤ key ∧ key ≤ l.finish.toNat) ∧ IsSurrogate (key + l.offset) ∧
      (n : Int) = key + l.offset
  /-- As long as sums are 64-bit numbers every other key is out of range; -/
  elsewhere : l.Fits → (l.image key = .error (.outOfRange key) ↔ ¬ l.Lands key)
  /-- that it is moved below zero is never said then, -/
  neverNegative : l.Fits → ∀ k n, l.image key ≠ .error (.invalidResult k n)
  /-- but only of a sum past the 64-bit numbers. -/
  wrapped {k : Nat} {n : Int} : l.image key = .error (.invalidResult k n) ↔
    (l.start.toNat ≤ key ∧ key ≤ l.finish.toNat) ∧ 9223372036854775808 ≤ (key : Int) + l.offset ∧
      k = key ∧ n = key + l.offset - 18446744073709551616

/-- A negative sum is reported exactly if it is past the 64-bit numbers. -/
theorem image_eq_invalidResult_iff {l : Shift} {key k : Nat} {n : Int} :
    l.image key = .error (.invalidResult k n) ↔
      (l.start.toNat ≤ key ∧ key ≤ l.finish.toNat) ∧ 9223372036854775808 ≤ (key : Int) + l.offset ∧
        k = key ∧ n = key + l.offset - 18446744073709551616 := by
  rw [image_fails_iff, Misses]
  simp only [reduceCtorEq, and_false, false_or, or_false, LookupError.invalidResult.injEq]

/-- What comes of a key, under every shift. -/
theorem places (l : Shift) (key : Nat) : l.Places key where
  defined := by
    rw [← covers_iff]
    simp only [image_eq_ok_iff, exists_and_left]
    exact Iff.rfl
  value h := (image_eq_ok_iff.1 h).2
  surrogate {n} := by
    rw [image_fails_iff, Misses]
    simp only [LookupError.notACharacter.injEq, true_and, reduceCtorEq, and_false, false_or,
      or_false]
    refine and_congr_right fun hin => and_congr_right fun hgap => ?_
    have hlow : 0xD800 ≤ (key : Int) + l.offset := hgap.1
    omega
  elsewhere hfits := hfits.outOfRange_iff
  neverNegative hfits k n h := by
    obtain ⟨hin, hlarge, -⟩ := image_eq_invalidResult_iff.1 h
    have hword := hfits.number_lt (covers_iff.2 hin)
    omega
  wrapped := image_eq_invalidResult_iff

/-! ## 3. The whole of it -/

/-- What is said about taking back a shift. -/
structure Inverts (l : Shift) : Prop where
  /-- A shift is what is built of its parts. -/
  built : make l.start l.finish l.offset = .ok l
  /-- It has an inverse exactly if the last key is moved to a number of 32 bits. -/
  invertible : (∃ r, l.inverse = .ok r) ↔ (l.finish.toNat : Int) + l.offset < UInt32.size
  /-- The inverse passes the checks that a shift is built with, -/
  checked {r : Shift} : l.inverse = .ok r → make r.start r.finish r.offset = .ok r
  /-- its inverse is the shift itself, -/
  twice {r : Shift} : l.inverse = .ok r → r.inverse = .ok l
  /-- and it moves each image back to its key and nothing else. -/
  undone {r : Shift} : l.inverse = .ok r →
    ∀ c d : Char, l.image c.toNat = .ok d ↔ r.image d.toNat = .ok c
  /-- What comes of a key depends on the interval and the number that the key is moved to, -/
  forth (key : Nat) : l.Places key
  /-- for the inverse too. -/
  back {r : Shift} : l.inverse = .ok r → ∀ key, r.Places key
  /-- No sum of a shift that has an inverse leaves the 64-bit numbers, and none of the inverse. -/
  fits {r : Shift} : l.inverse = .ok r → l.Fits ∧ r.Fits

/-- **The inverse takes a shift back exactly**, whatever interval and distance the shift is built
of. -/
theorem inverse_exact (l : Shift) : l.Inverts where
  built := make_self l
  invertible := exists_inverse_iff
  checked {r} _ := make_self r
  twice h := inverse_eq_ok_iff.2 (inverse_eq_ok_iff.1 h).symm
  undone h := (inverse_eq_ok_iff.1 h).image_iff
  forth := places l
  back {r} _ := places r
  fits {r} h := by
    have hmirrors := inverse_eq_ok_iff.1 h
    exact ⟨hmirrors.fits, hmirrors.symm.fits⟩

/-- A shift down over the surrogates: its first key is moved to the last surrogate and the second
one to the first character behind them. -/
def outOfGap : Shift := ⟨0x1DFFF, 0x1E000, -0x10000, by decide, by decide, by decide⟩

/-- A shift whose last key is moved past 32 bits. -/
def outgrown : Shift := ⟨0, 10, 0xFFFFFFFF, by decide, by decide, by decide⟩

/-- The first shift has an inverse, which moves the character behind the gap back and has no other
key behind it; the key that is moved into the gap is reported. The second shift has no inverse. -/
theorem inverse_exact_gap :
    (∃ r, outOfGap.inverse = .ok r ∧ r.inverse = .ok outOfGap ∧
      r.image 0xE000 = .ok (Char.ofNat 0x1E000) ∧ r.image 0xE001 = .error (.outOfRange 0xE001)) ∧
    outOfGap.image 0x1DFFF = .error (.notACharacter 0x1DFFF 0xDFFF) ∧
      ¬ ∃ r, outgrown.inverse = .ok r := by
  have hgap := inverse_exact outOfGap
  obtain ⟨r, hr⟩ := hgap.invertible.2 (by decide)
  have hmirrors := inverse_eq_ok_iff.1 hr
  have himage : outOfGap.image 0x1E000 = .ok (Char.ofNat 0xE000) := rfl
  refine ⟨⟨r, hr, hgap.twice hr, ?_, ?_⟩, ?_, ?_⟩
  · exact (hgap.undone hr (Char.ofNat 0x1E000) (Char.ofNat 0xE000)).1 himage
  · refine ((hgap.back hr 0xE001).elsewhere (hgap.fits hr).2).2 fun hlands => ?_
    have hfinish : (r.finish.toNat : Int) = 0xE000 := hmirrors.finish
    have hin := hlands.1.2
    omega
  · exact (hgap.forth 0x1DFFF).surrogate.2 (by decide)
  · exact fun h => absurd ((inverse_exact outgrown).invertible.1 h) (by decide)

end Lettering.Shift
