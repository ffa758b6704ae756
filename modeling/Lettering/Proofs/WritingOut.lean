import Lettering.Proofs.Layering

/-!
# Shifts written out

A shift written into a dictionary is to answer there what it answers itself.

* `CodePoint.isCharacter_iff`, `movedTo_eq_error_iff`: what is no character is a surrogate or past
  the last code point, and an error says which; past the 64-bit numbers it says that the sum is
  negative (`Misses`).
* `Shift.Stalls`: the first key of the interval without an image. Writing fails there and nowhere
  else (`writeInto_eq_error_iff`), before anything is written.
* `Shift.answerChar_of_image`: what a written key answers. An image that is the marker is read as a
  marker (`Shift.Refilled`), so that the dictionary answers with the key instead.
* `Shift.writeInto_exact` puts these together, and `marker_image_refilled` is a shift of one key
  whose dictionary does not answer as it does.
-/

namespace Lettering

/-! ## 1. Numbers and characters -/

namespace CodePoint

/-- The number is that of a character. -/
def IsCharacter (n : Int) : Prop := ∃ d : Char, (d.toNat : Int) = n

/-- The number is that of a surrogate. -/
def IsSurrogate (n : Int) : Prop := 0xD800 ≤ n ∧ n ≤ 0xDFFF

instance (n : Int) : Decidable (IsSurrogate n) :=
  inferInstanceAs (Decidable (0xD800 ≤ n ∧ n ≤ 0xDFFF))

theorem isCharacter_iff {n : Int} :
    IsCharacter n ↔ 0 ≤ n ∧ n ≤ (max : Int) ∧ ¬ IsSurrogate n := by
  unfold IsSurrogate max
  constructor
  · rintro ⟨d, rfl⟩
    have hvalid : d.toNat.isValidChar := d.valid
    unfold Nat.isValidChar at hvalid
    omega
  · rintro ⟨hlow, hhigh, hgap⟩
    have hvalid : n.toNat.isValidChar := by
      unfold Nat.isValidChar
      omega
    refine ⟨Char.ofNatAux n.toNat hvalid, ?_⟩
    show (n.toNat : Int) = n
    omega

instance (n : Int) : Decidable (IsCharacter n) := decidable_of_iff _ isCharacter_iff.symm

end CodePoint

open CodePoint

/-- What is wrong with the number that a key is moved to: it is past the last code point, a
surrogate, or past the 64-bit numbers, where the sum is a negative one. -/
def Misses (key : Nat) (number : Int) (e : LookupError) : Prop :=
  ((CodePoint.max : Int) < number ∧ number < 9223372036854775808) ∧ e = .outOfRange key ∨
    IsSurrogate number ∧ e = .notACharacter key number.toNat ∨
    9223372036854775808 ≤ number ∧ e = .invalidResult key (number - 18446744073709551616)

/-- The cases of a 64-bit number that is not negative. -/
theorem movedTo_eq_error_iff {key : Nat} {number : Int} {e : LookupError} (h : 0 ≤ number)
    (hword : number < 9223372036854775808) :
    movedTo key number = .error e ↔ Misses key number e := by
  have hchar := toChar?_eq_none_iff number.toNat
  unfold Nat.isValidChar at hchar
  unfold movedTo Misses IsSurrogate
  rw [if_neg (by omega)]
  have hlarge : ¬ 9223372036854775808 ≤ number := by omega
  split
  · rename_i hhigh
    have hnot : ¬ (0xD800 ≤ number ∧ number ≤ 0xDFFF) := by
      unfold CodePoint.max at hhigh
      omega
    simp only [hhigh, hword, hlarge, hnot, Except.error.injEq, and_self, true_and, false_and,
      or_false]
    exact eq_comm
  · rename_i hhigh
    split
    · rename_i d hd
      rw [hd] at hchar
      unfold CodePoint.max at hhigh
      refine iff_of_false nofun fun hmiss => ?_
      rcases hmiss with ⟨⟨hpast, -⟩, -⟩ | ⟨hgap, -⟩ | ⟨hpast, -⟩
      · exact hhigh hpast
      · exact Option.some_ne_none d (hchar.2 (by omega))
      · exact hlarge hpast
    · rename_i hnone
      have hgap : 0xD800 ≤ number ∧ number ≤ 0xDFFF := by
        have hinvalid := hchar.1 hnone
        unfold CodePoint.max at hhigh
        omega
      simp only [hhigh, hlarge, hgap, Except.error.injEq, and_self, true_and, false_and, false_or,
        or_false]
      exact eq_comm

namespace Shift

variable {l : Shift} {key : Nat}

/-! ## 2. Images -/

/-- A key of the interval is not moved below zero. -/
theorem number_nonneg (h : l.covers key = true) : 0 ≤ (key : Int) + l.offset := by
  have hlow := (covers_iff.1 h).1
  have hstart := l.startsAtLeastZero
  omega

/-- Past the 64-bit numbers it does not come around to zero again. -/
theorem number_lt (h : l.covers key = true) : (key : Int) + l.offset < 18446744073709551616 := by
  have hkey := lt_of_covers h
  have hstart := l.startsInWord
  omega

/-- No key is moved past the 64-bit numbers. -/
def Fits (l : Shift) : Prop := (l.finish.toNat : Int) + l.offset < 9223372036854775808

theorem Fits.number_lt (hfits : l.Fits) (h : l.covers key = true) :
    (key : Int) + l.offset < 9223372036854775808 := by
  have hkey := (covers_iff.1 h).2
  unfold Fits at hfits
  omega

theorem image_eq_ok_iff {d : Char} :
    l.image key = .ok d ↔ l.covers key = true ∧ (d.toNat : Int) = key + l.offset := by
  have hd : d.toNat < 4294967296 := d.val.toNat_lt
  constructor
  · intro h
    have hc := covers_of_image h
    have hanswer := answer_of_image h
    rw [answer_of_covers hc, movedTo_eq_ok_iff] at hanswer
    obtain ⟨d', hsingle, hnumber⟩ := hanswer
    obtain rfl := String.singleton_inj.1 hsingle
    exact ⟨hc, ((l.sum_offset_iff (lt_of_covers hc) hd).1 hnumber.symm).symm⟩
  · rintro ⟨hc, hnumber⟩
    have hanswer : l.answer key = .ok (String.singleton d) := by
      rw [answer_of_covers hc, movedTo_eq_ok_iff]
      exact ⟨d, rfl, ((l.sum_offset_iff (lt_of_covers hc) hd).2 hnumber.symm).symm⟩
    unfold answer at hanswer
    cases hi : l.image key with
    | error e =>
      rw [hi] at hanswer
      cases hanswer
    | ok d' =>
      rw [hi] at hanswer
      rw [String.singleton_inj.1 (Except.ok.inj hanswer)]

theorem exists_image_iff (h : l.covers key = true) :
    (∃ d, l.image key = .ok d) ↔ IsCharacter (key + l.offset) :=
  exists_congr fun _ => image_eq_ok_iff.trans (and_iff_right h)

/-- A key of the interval without an image is reported for what it is moved to. -/
theorem answer_eq_error_iff {e : LookupError} (h : l.covers key = true) :
    l.answer key = .error e ↔ Misses key (key + l.offset) e := by
  have hlow := number_nonneg h
  rw [answer_of_covers h]
  by_cases hword : (key : Int) + l.offset < 9223372036854775808
  · rw [sum_eq (by omega) hword, movedTo_eq_error_iff hlow hword]
  · have hlarge : 9223372036854775808 ≤ (key : Int) + l.offset := Int.not_lt.1 hword
    have hgap : ¬ IsSurrogate ((key : Int) + l.offset) := by
      unfold IsSurrogate
      omega
    have hsum := sum_eq_sub hlarge (number_lt h)
    rw [movedTo, if_pos (by have := number_lt h; omega), hsum]
    unfold Misses
    simp only [hword, hlarge, hgap, Except.error.injEq, and_false, true_and, false_and, false_or]
    exact eq_comm

theorem image_eq_error_iff {e : LookupError} :
    l.image key = .error e ↔ l.answer key = .error e := by
  unfold answer
  cases l.image key with
  | ok d => exact iff_of_false nofun nofun
  | error e' => simp only [Except.map, Except.error.injEq]

/-! ## 3. Where writing fails -/

/-- The first key of the interval that is moved to no character, and what is wrong there. -/
def Stalls (l : Shift) (e : LookupError) : Prop :=
  ∃ key, l.covers key = true ∧ Misses key (key + l.offset) e ∧
    ∀ k < key, l.covers k = true → IsCharacter (k + l.offset)

/-- Collecting a row of keys fails at the first one without an image. -/
theorem collect_eq_error_iff {count key : Nat} {acc : List (Nat × Char)} {e : LookupError} :
    l.collect key acc count = .error e ↔
      ∃ k, key ≤ k ∧ k < key + count ∧ l.image k = .error e ∧
        ∀ j, key ≤ j → j < k → ∃ d, l.image j = .ok d := by
  induction count generalizing key acc with
  | zero =>
    refine iff_of_false nofun ?_
    rintro ⟨k, hlow, hhigh, -⟩
    omega
  | succ count ih =>
    unfold collect
    split
    · rename_i c hc
      rw [ih]
      constructor
      · rintro ⟨k, hlow, hhigh, hk, hbefore⟩
        refine ⟨k, by omega, by omega, hk, fun j hj hjk => ?_⟩
        rcases Nat.eq_or_lt_of_le hj with rfl | hlt
        · exact ⟨c, hc⟩
        · exact hbefore j hlt hjk
      · rintro ⟨k, hlow, hhigh, hk, hbefore⟩
        have hne : k ≠ key := by
          rintro rfl
          cases hk.symm.trans hc
        exact ⟨k, by omega, by omega, hk, fun j hj hjk => hbefore j (by omega) hjk⟩
    · rename_i e' he
      constructor
      · intro h
        cases h
        exact ⟨key, Nat.le_refl _, by omega, he, fun j hj hjk => by omega⟩
      · rintro ⟨k, hlow, -, hk, hbefore⟩
        rcases Nat.eq_or_lt_of_le hlow with rfl | hlt
        · cases he.symm.trans hk
          rfl
        · obtain ⟨d, hd⟩ := hbefore key (Nat.le_refl _) hlt
          cases he.symm.trans hd

theorem entries_eq_error_iff {e : LookupError} : l.entries = .error e ↔ l.Stalls e := by
  have hrow (k : Nat) : l.covers k = true ↔
      l.start.toNat ≤ k ∧ k < l.start.toNat + (l.finish.toNat - l.start.toNat + 1) := by
    have hordered := l.ordered
    rw [covers_iff]
    omega
  unfold entries
  rw [collect_eq_error_iff]
  constructor
  · rintro ⟨k, hlow, hhigh, hk, hbefore⟩
    have hc := (hrow k).2 ⟨hlow, hhigh⟩
    refine ⟨k, hc, (answer_eq_error_iff hc).1 (image_eq_error_iff.1 hk), fun j hj hcj => ?_⟩
    exact (exists_image_iff hcj).1 (hbefore j ((hrow j).1 hcj).1 hj)
  · rintro ⟨k, hc, hmiss, hbefore⟩
    obtain ⟨hlow, hhigh⟩ := (hrow k).1 hc
    refine ⟨k, hlow, hhigh, image_eq_error_iff.2 ((answer_eq_error_iff hc).2 hmiss), ?_⟩
    intro j hj hjk
    have hcj := (hrow j).2 ⟨hj, by omega⟩
    exact (exists_image_iff hcj).2 (hbefore j hjk hcj)

/-- **Writing fails where the interval stalls**, whatever it is to be written into. -/
theorem writeInto_eq_error_iff {target : Dictionary} {e : LookupError} :
    l.writeInto target = .error e ↔ l.Stalls e := by
  rw [← entries_eq_error_iff]
  unfold writeInto
  cases l.entries with
  | error e' => simp only [bind, Except.bind, Except.error.injEq]
  | ok entries => exact iff_of_false nofun nofun

/-- An interval stalls as soon as one of its keys is moved to no character. -/
theorem exists_stalls_iff :
    (∃ e, l.Stalls e) ↔ ∃ key, l.covers key = true ∧ ¬ IsCharacter (key + l.offset) := by
  constructor
  · rintro ⟨e, key, hc, hmiss, -⟩
    refine ⟨key, hc, fun hd => ?_⟩
    obtain ⟨d, hd⟩ := (exists_image_iff hc).2 hd
    cases ((answer_eq_error_iff hc).2 hmiss).symm.trans (answer_of_image hd)
  · rintro ⟨key, hc, hnot⟩
    cases h : l.entries with
    | error e => exact ⟨e, entries_eq_error_iff.1 h⟩
    | ok entries => exact absurd ((exists_image_iff hc).1 (exists_image_of_entries h hc)) hnot

/-! ## 4. Entries that stay -/

theorem named_writeInto {target out : Dictionary} (h : l.writeInto target = .ok out) :
    out.named = target.named := by
  apply Std.ExtTreeMap.ext_getElem?
  intro name
  exact find?_writeInto_of_not_covers h (.named name) fun k hk => by cases hk

theorem fallback_writeInto {target out : Dictionary} (h : l.writeInto target = .ok out) :
    out.fallback = target.fallback :=
  find?_writeInto_of_not_covers h .fallback fun k hk => by cases hk

theorem chars_writeInto {target out : Dictionary} (h : l.writeInto target = .ok out)
    (hc : l.covers key = false) : out.chars[key]? = target.chars[key]? :=
  find?_writeInto_of_not_covers h (.codePoint key) fun k hk => by
    cases hk
    exact hc

/-- A shift written out on its own holds the keys of its interval. -/
theorem contains_toDictionary {out : Dictionary} (h : l.toDictionary = .ok out)
    (key : Dictionary.Key) :
    out.contains key = true ↔ ∃ k, key = .codePoint k ∧ l.covers k = true := by
  unfold toDictionary at h
  unfold Dictionary.contains
  constructor
  · intro hsome
    refine Classical.byContradiction fun hnone => ?_
    have hfree : ∀ k, key = .codePoint k → l.covers k = false := fun k hk =>
      Bool.eq_false_iff.2 fun hc => hnone ⟨k, hk, hc⟩
    rw [find?_writeInto_of_not_covers h key hfree] at hsome
    cases key <;> simp [Dictionary.empty, Dictionary.find?] at hsome
  · rintro ⟨k, rfl, hc⟩
    obtain ⟨d, -, hd⟩ := find?_writeInto_of_covers h hc
    rw [hd]
    rfl

/-! ## 5. What the dictionary answers -/

/-- A key that is written answers with its image, but where this is the marker with the key's own
character, if it has one. -/
theorem answerChar_of_image {target out : Dictionary} (h : l.writeInto target = .ok out) {d : Char}
    (hd : l.image key = .ok d) :
    out.answerChar key =
      match toChar? key with
      | some c => Marker.withChar c (String.singleton d)
      | none => String.singleton d := by
  obtain ⟨d', hd', hentry⟩ := find?_writeInto_of_covers h (covers_of_image hd)
  cases hd.symm.trans hd'
  have hchars : out.chars[key]? = some (String.singleton d) := hentry
  rw [Dictionary.answerChar, hchars, Option.getD_some]
  cases hc : toChar? key with
  | none => rw [Marker.fillChar, hc]
  | some c => rw [← toNat_of_toChar? hc, Marker.fillChar_toNat]

/-- A character that a shift moves to the marker. The marker itself may stay where it is. -/
def Refilled (l : Shift) (c : Char) : Prop := c ≠ Marker.char ∧ l.image c.toNat = .ok Marker.char

/-- **The dictionary answers a key of the interval as the shift does**, unless it is a character
moved to the marker. -/
theorem answer_eq_answerChar {target out : Dictionary} (h : l.writeInto target = .ok out)
    (hc : l.covers key = true) (hr : ∀ c, c.toNat = key → ¬ l.Refilled c) :
    l.answer key = .ok (out.answerChar key) := by
  obtain ⟨d, hd, -⟩ := find?_writeInto_of_covers h hc
  rw [answerChar_of_image h hd, answer_of_image hd]
  cases hchar : toChar? key with
  | none => rfl
  | some c =>
    have hkey := toNat_of_toChar? hchar
    dsimp only
    by_cases hmarker : d = Marker.char
    · -- only the marker is moved to the marker here, and it takes its own place
      subst hmarker
      have hself : c = Marker.char := Classical.byContradiction fun hne =>
        hr c hkey ⟨hne, by rw [hkey, hd]⟩
      rw [hself]
      exact congrArg Except.ok (Marker.withChar_text _).symm
    · rw [Marker.withChar_singleton_of_ne c hmarker]

/-- Such a character answers with itself. -/
theorem answerChar_of_refilled {target out : Dictionary} (h : l.writeInto target = .ok out)
    {c : Char} (hr : l.Refilled c) :
    l.answer c.toNat = .ok Marker.text ∧ out.answerChar c.toNat = String.singleton c := by
  refine ⟨answer_of_image hr.2, ?_⟩
  rw [answerChar_of_image h hr.2, toChar?_toNat]
  exact Marker.withChar_text c

/-! ## 6. The whole of it -/

/-- The dictionary after a shift is to be written into it: as it was, if that fails. -/
def afterWrite (l : Shift) (target : Dictionary) : Dictionary :=
  match l.writeInto target with
  | .ok out => out
  | .error _ => target

/-- What is said about a shift that is written into a dictionary. -/
structure WritesOut (l : Shift) (target : Dictionary) : Prop where
  /-- It fails exactly if some key of the interval is moved to no character. -/
  refused : (∃ e, l.writeInto target = .error e) ↔
    ∃ key, l.covers key = true ∧ ¬ IsCharacter (key + l.offset)
  /-- Where it fails the dictionary stays as it was, and the error is that of the first such key. -/
  unchanged {e : LookupError} : l.writeInto target = .error e →
    l.afterWrite target = target ∧ l.Stalls e
  /-- Where it succeeds every other entry stays as it was: those of keys outside the interval, those
  of several characters, and the fallback. -/
  framed {out : Dictionary} : l.writeInto target = .ok out → l.afterWrite target = out ∧
    out.named = target.named ∧ out.fallback = target.fallback ∧
    ∀ key, l.covers key = false →
      out.chars[key]? = target.chars[key]? ∧ out.answerChar key = target.answerChar key
  /-- Every key of the interval holds its image and answers as the shift does, but for a character
  moved to the marker, -/
  answered {out : Dictionary} : l.writeInto target = .ok out → ∀ key, l.covers key = true →
    (∃ d, (d.toNat : Int) = key + l.offset ∧ out.chars[key]? = some (String.singleton d)) ∧
      ((∀ c, c.toNat = key → ¬ l.Refilled c) → l.answer key = .ok (out.answerChar key))
  /-- which answers with itself in place of the marker. -/
  refilled {out : Dictionary} : l.writeInto target = .ok out → ∀ c, l.Refilled c →
    l.answer c.toNat = .ok Marker.text ∧ out.answerChar c.toNat = String.singleton c
  /-- A dictionary of its own holds no other key. -/
  alone {out : Dictionary} : l.toDictionary = .ok out → ∀ key,
    out.contains key = true ↔ ∃ k, key = .codePoint k ∧ l.covers k = true

/-- **A shift is written out whole or not at all, and answers alike from then on**, but for
characters that it moves to the marker; whatever the shift and whatever it is written into. -/
theorem writeInto_exact (l : Shift) (target : Dictionary) : l.WritesOut target where
  refused := by
    rw [← exists_stalls_iff]
    exact exists_congr fun e => writeInto_eq_error_iff
  unchanged h := ⟨by rw [afterWrite, h], writeInto_eq_error_iff.1 h⟩
  framed h := by
    refine ⟨by rw [afterWrite, h], named_writeInto h, fallback_writeInto h, fun key hc => ?_⟩
    have hentry := chars_writeInto h hc
    refine ⟨hentry, ?_⟩
    rw [Dictionary.answerChar, Dictionary.answerChar, hentry, Dictionary.fallbackText,
      Dictionary.fallbackText, fallback_writeInto h]
  answered h key hc := by
    obtain ⟨d, hd, hentry⟩ := find?_writeInto_of_covers h hc
    exact ⟨⟨d, (image_eq_ok_iff.1 hd).2, hentry⟩, answer_eq_answerChar h hc⟩
  refilled h _ hr := answerChar_of_refilled h hr
  alone h := contains_toDictionary h

/-- A shift of three characters of which the second is moved to the marker. -/
def pastMarker : Shift := ⟨0xFFFA, 0xFFFC, 1, by decide, by decide, by decide⟩

/-- A shift whose second key is moved to a surrogate. -/
def intoGap : Shift := ⟨0xD7FE, 0xD7FF, 1, by decide, by decide, by decide⟩

/-- Written under a fallback, the first shift answers its first key as it does itself, its second
one with that key, and leaves the fallback to all others; the second shift writes nothing. -/
theorem writeInto_exact_fallback :
    (∃ out, pastMarker.writeInto (Dictionary.empty.setFallback "?") = .ok out ∧
      pastMarker.answer 0xFFFA = .ok (out.answerChar 0xFFFA) ∧
      out.answerChar 0xFFFB = "\uFFFB" ∧ out.answerChar 97 = "?") ∧
    intoGap.Stalls (.notACharacter 0xD7FF 0xD800) ∧
      intoGap.afterWrite (Dictionary.empty.setFallback "?") = Dictionary.empty.setFallback "?" := by
  have hpast := writeInto_exact pastMarker (Dictionary.empty.setFallback "?")
  have hgap := writeInto_exact intoGap (Dictionary.empty.setFallback "?")
  have herror : intoGap.writeInto (Dictionary.empty.setFallback "?") =
      .error (.notACharacter 0xD7FF 0xD800) := rfl
  have hok : pastMarker.writeInto (Dictionary.empty.setFallback "?") = .ok _ := rfl
  refine ⟨⟨_, hok, ?_, ?_, ?_⟩, (hgap.unchanged herror).2, (hgap.unchanged herror).1⟩
  · refine (hpast.answered hok 0xFFFA rfl).2 fun c hc hr => ?_
    have himage : pastMarker.image 0xFFFA = .ok '\uFFFB' := rfl
    rw [Refilled, hc, himage] at hr
    exact absurd (Except.ok.inj hr.2) (by decide)
  · exact (hpast.refilled hok '\uFFFB' ⟨by decide, rfl⟩).2
  · rw [((hpast.framed hok).2.2.2 97 rfl).2]
    decide +kernel

/-- A shift whose only key is moved to the marker. -/
def toMarker : Shift := ⟨0xFFFB, 0xFFFB, 1, by decide, by decide, by decide⟩

/-- **A shift of one key whose dictionary does not answer as it does**: the key is moved to the
marker, and the dictionary fills the marker with the key. -/
theorem marker_image_refilled :
    ∃ l out, make 0xFFFB 0xFFFB 1 = .ok l ∧ l.toDictionary = .ok out ∧
      l.covers 0xFFFB = true ∧ l.answer 0xFFFB = .ok "\uFFFC" ∧
      out.answerChar 0xFFFB = "\uFFFB" := by
  refine ⟨toMarker, _, make_self toMarker, rfl, rfl, rfl, ?_⟩
  decide +kernel

end Shift

end Lettering
