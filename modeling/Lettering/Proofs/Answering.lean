import Lettering.Proofs.Filling
import Lettering.Proofs.LinearScan

/-!
# What an interval map answers

`LinearScan` finds the range that answers a key. This file says what comes out for every key, whether
a range holds it or not.

* `Marker.LawfulFillable`: values whose markers take a key's character and stay as they are for a
  key that is no character; `shown` is such a value as a map gives it (`present_eq`).
* `answer_of_not_covers`: a key that no range holds misses them below the first bound, above the
  last one, or between two.
* `getElem?_rangeValues`: the place of the stored values that a range reads.
* `answer_scans` puts these together, and `answer_eq_ok_iff` is what they come to for a caller that
  only asks for the answers.
-/

namespace Lettering

/-! ## 1. Values with a key in them -/

namespace Marker

/-- Values whose markers take the character of a key: `withKey c v` is the value with the character
in place of each marker. -/
class LawfulFillable (α : Type) [Fillable α] where
  withKey : Char → α → α
  getD_filled? (value : α) (c : Char) :
    (Fillable.filled? value c.toNat).getD value = withKey c value
  filled?_eq_none (value : α) {key : Nat} :
    CodePoint.toChar? key = none → Fillable.filled? value key = none

theorem filledText?_eq_none (template : String) {key : Nat} (h : CodePoint.toChar? key = none) :
    filledText? template key = none := by
  rw [filledText?, h, Option.isSome_none, Bool.false_and]
  rfl

instance : LawfulFillable String where
  withKey := withChar
  getD_filled? := filledText?_toNat
  filled?_eq_none template _ h := filledText?_eq_none template h

instance : LawfulFillable (Option String) where
  withKey c := Option.map (withChar c)
  getD_filled? value c := by
    cases value with
    | none => rfl
    | some template =>
      rw [Option.map_some, ← filledText?_toNat]
      show ((filledText? template c.toNat).map some).getD (some template) = _
      cases filledText? template c.toNat <;> rfl
  filled?_eq_none value key h := by
    cases value with
    | none => rfl
    | some template => exact congrArg (Option.map some) (filledText?_eq_none template h)

instance : LawfulFillable Bool where
  withKey _ value := value
  getD_filled? _ _ := rfl
  filled?_eq_none _ _ _ := rfl

/-- A value as it is shown for a key: where markers are filled, with the key's character in place of
each of them, if the key is a character. -/
def shown {α : Type} [Fillable α] [LawfulFillable α] (fills : Bool) (key : Nat) (value : α) : α :=
  if fills then
    match CodePoint.toChar? key with
    | some c => LawfulFillable.withKey c value
    | none => value
  else value

end Marker

/-- What a map gives is its value as it is shown. -/
theorem IntervalMap.present_eq {α : Type} [Marker.Fillable α] [Marker.LawfulFillable α]
    (t : IntervalMap α) (value : α) (key : Nat) :
    t.present value key = Marker.shown t.fills key value := by
  unfold present Marker.shown
  split
  · cases hc : CodePoint.toChar? key with
    | none => rw [Marker.LawfulFillable.filled?_eq_none value hc, Option.getD_none]
    | some c =>
      rw [← CodePoint.toNat_of_toChar? hc]
      exact Marker.LawfulFillable.getD_filled? value c
  · rfl

/-! ## 2. Positions at the ends -/

namespace Bounds

variable {bounds : List Nat} {key r : Nat}

theorem Rank.eq_zero_iff (h : Rank bounds key r) : r = 0 ↔ ∀ b ∈ bounds, key ≤ b := by
  constructor
  · rintro rfl b hb
    obtain ⟨i, hi, rfl⟩ := List.mem_iff_getElem.1 hb
    exact h.above i hi (Nat.zero_le i)
  · intro hall
    refine Classical.byContradiction fun hr => ?_
    have hlt : 0 < bounds.length := Nat.lt_of_lt_of_le (Nat.pos_of_ne_zero hr) h.le_length
    have hbelow := h.below 0 hlt (Nat.pos_of_ne_zero hr)
    exact Nat.not_lt.2 (hall _ (List.getElem_mem hlt)) hbelow

theorem Rank.eq_length_iff (h : Rank bounds key r) :
    r = bounds.length ↔ ∀ b ∈ bounds, b < key := by
  constructor
  · rintro rfl b hb
    obtain ⟨i, hi, rfl⟩ := List.mem_iff_getElem.1 hb
    exact h.below i hi hi
  · intro hall
    refine Classical.byContradiction fun hr => ?_
    have hlt : r < bounds.length := Nat.lt_of_le_of_ne h.le_length hr
    have habove := h.above r hlt (Nat.le_refl r)
    exact Nat.not_lt.2 habove (hall _ (List.getElem_mem hlt))

/-- The flag of a search tells whether the key is one of the bounds. -/
theorem locate_found_iff_mem (hs : Increasing bounds) (key : Nat) :
    (locate bounds key).2 = true ↔ key ∈ bounds := by
  rw [locate_found hs]
  constructor
  · exact List.mem_of_getElem?
  · intro hmem
    obtain ⟨i, hi, rfl⟩ := List.mem_iff_getElem.1 hmem
    rw [(locate_rank hs bounds[i]).unique (Rank.of_getElem hs hi), List.getElem?_eq_getElem hi]

end Bounds

/-! ## 3. Ranges and keys -/

namespace IntervalMap

open Marker

variable {α : Type}

/-- Whether a range holds a key. -/
def Holds (r : Nat × Nat) (key : Nat) : Prop := r.1 ≤ key ∧ key ≤ r.2

instance (r : Nat × Nat) (key : Nat) : Decidable (Holds r key) :=
  inferInstanceAs (Decidable (r.1 ≤ key ∧ key ≤ r.2))

/-- No two ranges of a map hold the same key. -/
theorem eq_of_holds {t : IntervalMap α} {key i j : Nat} {e e' : (Nat × Nat) × α}
    (he : t.toList[i]? = some e) (he' : t.toList[j]? = some e') (hkey : Holds e.1 key)
    (hkey' : Holds e'.1 key) : i = j := by
  have hindex {k : Nat} {x : (Nat × Nat) × α} (hx : t.toList[k]? = some x) (hk : Holds x.1 key) :
      (t.locate key).1 / 2 = k := by
    rw [toList, List.getElem?_zip_eq_some] at hx
    exact (Bounds.locate_of_mem_range t.wellFormed.increasing hx.1 hk.1 hk.2).2
  exact (hindex he hkey).symm.trans (hindex he' hkey')

/-! ## 4. Keys that miss the ranges -/

/-- Where a key stands that no range holds: below every bound, above every bound, or between two.
Where there is no bound it is below them. -/
def miss (bounds : List Nat) (key : Nat) : LookupError :=
  if ∀ b ∈ bounds, key < b then .belowFirst key
  else if ∀ b ∈ bounds, b < key then .aboveLast key
  else .gap key

theorem miss_eq_iff (bounds : List Nat) (key : Nat) :
    (miss bounds key = .belowFirst key ↔ bounds = [] ∨ ∀ b ∈ bounds, key < b) ∧
      (miss bounds key = .aboveLast key ↔ bounds ≠ [] ∧ ∀ b ∈ bounds, b < key) ∧
      (miss bounds key = .gap key ↔ ¬ (bounds = [] ∨ ∀ b ∈ bounds, key < b) ∧
        ¬ (bounds ≠ [] ∧ ∀ b ∈ bounds, b < key)) := by
  have hnil : bounds = [] → ∀ b ∈ bounds, key < b := by
    rintro rfl b hb
    cases hb
  unfold miss
  split
  · rename_i hbelow
    have hnot : ¬ (bounds ≠ [] ∧ ∀ b ∈ bounds, b < key) := fun ⟨hne, habove⟩ => by
      obtain ⟨b, hb⟩ := List.exists_mem_of_ne_nil bounds hne
      exact Nat.lt_asymm (hbelow b hb) (habove b hb)
    exact ⟨iff_of_true rfl (.inr hbelow), iff_of_false nofun hnot,
      iff_of_false nofun fun h => h.1 (.inr hbelow)⟩
  · rename_i hbelow
    have hnot : ¬ (bounds = [] ∨ ∀ b ∈ bounds, key < b) := fun h => hbelow (h.elim hnil id)
    have hne : bounds ≠ [] := fun e => hnot (.inl e)
    split
    · rename_i habove
      exact ⟨iff_of_false nofun hnot, iff_of_true rfl ⟨hne, habove⟩,
        iff_of_false nofun fun h => h.2 ⟨hne, habove⟩⟩
    · rename_i habove
      exact ⟨iff_of_false nofun hnot, iff_of_false nofun fun h => habove h.2,
        iff_of_true rfl ⟨hnot, fun h => habove h.2⟩⟩

theorem answer_of_not_covers [Fillable α] {t : IntervalMap α} {key : Nat}
    (h : t.covers key = false) : t.answer key = .error (miss t.bounds key) := by
  unfold covers Bounds.contains at h
  obtain ⟨hfree, heven⟩ := Bool.or_eq_false_iff.1 h
  rw [beq_eq_false_iff_ne] at heven
  have hrank := Bounds.locate_rank t.wellFormed.increasing key
  have hnot : key ∉ t.bounds := fun hm => by
    rw [(Bounds.locate_found_iff_mem t.wellFormed.increasing key).2 hm] at hfree
    cases hfree
  have hbelow : (∀ b ∈ t.bounds, key < b) ↔ (Bounds.locate t.bounds key).1 = 0 := by
    rw [hrank.eq_zero_iff]
    refine forall₂_congr fun b hb => ⟨Nat.le_of_lt, fun hle => Nat.lt_of_le_of_ne hle ?_⟩
    rintro rfl
    exact hnot hb
  unfold answer
  split
  rename_i position found hl
  unfold locate at hl
  rw [hl] at hfree heven hrank hbelow
  dsimp only at hfree heven hrank hbelow
  simp only [miss, hbelow, ← hrank.eq_length_iff]
  rw [dif_neg (by rw [hfree]; exact Bool.noConfusion)]
  split
  · rfl
  · split
    · rfl
    · rw [if_pos (by omega)]

theorem covers_iff {t : IntervalMap α} {key : Nat} :
    t.covers key = true ↔ ∃ e ∈ t.toList, Holds e.1 key := by
  constructor
  · intro h
    obtain ⟨lo, hi, value, hm, hlo, hhi⟩ := exists_of_covers h
    exact ⟨_, hm, hlo, hhi⟩
  · rintro ⟨e, hm, hlo, hhi⟩
    exact covers_of_mem hm hlo hhi

/-- **What a caller gets**: the answers of a map are the values of the ranges that hold the key. -/
theorem answer_eq_ok_iff [Fillable α] [LawfulFillable α] {t : IntervalMap α} {key : Nat} {w : α} :
    t.answer key = .ok w ↔ ∃ e ∈ t.toList, Holds e.1 key ∧ w = shown t.fills key e.2 := by
  constructor
  · intro h
    cases hc : t.covers key with
    | false =>
      rw [answer_of_not_covers hc] at h
      cases h
    | true =>
      obtain ⟨e, hm, hk⟩ := covers_iff.1 hc
      rw [answer_of_mem hm hk.1 hk.2, present_eq] at h
      exact ⟨e, hm, hk, (Except.ok.inj h).symm⟩
  · rintro ⟨e, hm, hk, rfl⟩
    rw [answer_of_mem hm hk.1 hk.2, present_eq]

/-! ## 5. Places of values -/

/-- The place of the stored value that the range of a number reads: all read the first one if it is
the only one. -/
def slot (t : IntervalMap α) (i : Nat) : Nat := if t.values.length = 1 then 0 else i

theorem getElem?_rangeValues {t : IntervalMap α} {i : Nat} (h : i < t.size) :
    t.rangeValues[i]? = t.values[t.slot i]? := by
  have hcounted := t.wellFormed.counted
  unfold size at h
  unfold slot
  split
  · rename_i hone
    obtain ⟨shared, hvalues⟩ := List.length_eq_one_iff.1 hone
    unfold rangeValues spread size
    rw [hvalues]
    split
    · rename_i hcount
      obtain rfl : i = 0 := by
        rw [← hcount, List.length_singleton] at h
        omega
      rfl
    · exact List.getElem?_replicate_of_lt h
  · rename_i hmany
    unfold rangeValues spread size
    rw [if_pos (hcounted.resolve_left hmany)]

/-- The value at a position is stored at the place of the position's range. -/
theorem getElem?_slot (t : IntervalMap α) {position : Nat} (h : position < t.bounds.length) :
    t.values[t.slot (position / 2)]? = some (t.valueAt position h) := by
  have hpaired := t.wellFormed.paired
  have hlt : position / 2 < t.size := by
    unfold size
    omega
  have hlen : position / 2 < t.rangeValues.length := by
    rw [t.length_rangeValues]
    exact hlt
  rw [← getElem?_rangeValues hlt, List.getElem?_eq_getElem hlen]
  rfl

theorem position_lt_of_covers {t : IntervalMap α} {key : Nat} (h : t.covers key = true) :
    (t.locate key).1 < t.bounds.length := by
  refine Bounds.locate_lt_length t.wellFormed.increasing key ?_
  unfold covers Bounds.contains at h
  rcases Bool.or_eq_true_iff.1 h with hfound | hodd
  · exact .inl hfound
  · refine .inr fun hend => ?_
    have hpaired := t.wellFormed.paired
    rw [beq_iff_eq, hend] at hodd
    omega

/-- The range of a number lies between two bounds in a row, and has the value at the first. -/
theorem getElem?_toList (t : IntervalMap α) {i : Nat} (h : i < t.size) :
    ∃ hlo : 2 * i < t.bounds.length, ∃ hhi : 2 * i + 1 < t.bounds.length,
      t.toList[i]? = some ((t.bounds[2 * i], t.bounds[2 * i + 1]), t.valueAt (2 * i) hlo) := by
  have hpaired := t.wellFormed.paired
  unfold size at h
  refine ⟨by omega, by omega, ?_⟩
  rw [toList, List.getElem?_zip_eq_some]
  refine ⟨(Bounds.getElem?_toRanges _ _ _ _).2 ⟨?_, ?_⟩, ?_⟩
  · exact List.getElem?_eq_getElem _
  · exact List.getElem?_eq_getElem _
  · have hhalf : 2 * i / 2 = i := by omega
    rw [← t.getElem?_slot, ← getElem?_rangeValues, hhalf]
    rw [hhalf]
    exact h

theorem length_toList (t : IntervalMap α) : t.toList.length = t.size := by
  rw [toList, List.length_zip, Bounds.length_toRanges, t.length_rangeValues, Nat.min_self]
  rfl

/-! ## 6. Every key -/

/-- What is said about the ranges of a map, gone through in order, and the answer for a key. -/
structure Scans [Fillable α] [LawfulFillable α] (t : IntervalMap α) (key : Nat) : Prop where
  /-- At most one range holds the key. -/
  once {i j : Nat} {e e' : (Nat × Nat) × α} : t.toList[i]? = some e → t.toList[j]? = some e' →
    Holds e.1 key → Holds e'.1 key → i = j
  /-- Where a range holds the key, the answer is its value. -/
  hit {e : (Nat × Nat) × α} : e ∈ t.toList → Holds e.1 key →
    t.covers key = true ∧ t.answer key = .ok (shown t.fills key e.2)
  /-- Where none does, the answer is an error: which one depends on where the bounds are. -/
  missed : (∀ e ∈ t.toList, ¬ Holds e.1 key) → t.covers key = false ∧
    (t.answer key = .error (.belowFirst key) ↔ t.bounds = [] ∨ ∀ b ∈ t.bounds, key < b) ∧
    (t.answer key = .error (.aboveLast key) ↔ t.bounds ≠ [] ∧ ∀ b ∈ t.bounds, b < key) ∧
    (t.answer key = .error (.gap key) ↔
      ¬ (t.bounds = [] ∨ ∀ b ∈ t.bounds, key < b) ∧ ¬ (t.bounds ≠ [] ∧ ∀ b ∈ t.bounds, b < key))
  /-- An answer reads a bound and a stored value that are there. -/
  inside : t.covers key = true → ∃ h : (t.locate key).1 < t.bounds.length,
    t.answer key = .ok (shown t.fills key (t.valueAt (t.locate key).1 h))
  /-- So does the value at any position, -/
  stored {position : Nat} (h : position < t.bounds.length) :
    t.values[t.slot (position / 2)]? = some (t.valueAt position h)
  /-- and so does every range with its value. -/
  listed : t.toList.length = t.size ∧ ∀ i < t.size, ∃ hlo : 2 * i < t.bounds.length,
    ∃ hhi : 2 * i + 1 < t.bounds.length,
      t.toList[i]? = some ((t.bounds[2 * i], t.bounds[2 * i + 1]), t.valueAt (2 * i) hlo)

/-- **Looking a key up is scanning the ranges**, in every map and for every key. -/
theorem answer_scans [Fillable α] [LawfulFillable α] (t : IntervalMap α) (key : Nat) :
    t.Scans key where
  once he he' hk hk' := eq_of_holds he he' hk hk'
  hit hm hk := ⟨covers_iff.2 ⟨_, hm, hk⟩, answer_eq_ok_iff.2 ⟨_, hm, hk, rfl⟩⟩
  missed hnone := by
    have hc : t.covers key = false := Bool.eq_false_iff.2 fun h => by
      obtain ⟨e, hm, hk⟩ := covers_iff.1 h
      exact hnone e hm hk
    refine ⟨hc, ?_⟩
    obtain ⟨hbelow, habove, hgap⟩ := miss_eq_iff t.bounds key
    simp only [answer_of_not_covers hc, Except.error.injEq]
    exact ⟨hbelow, habove, hgap⟩
  inside h := by
    refine ⟨position_lt_of_covers h, ?_⟩
    rw [answer_of_covers h (List.getElem?_eq_getElem _), present_eq]
    rfl
  stored h := t.getElem?_slot h
  listed := ⟨t.length_toList, fun i hi => t.getElem?_toList hi⟩

/-- Two ranges that share a value with a marker. -/
def boxes : IntervalMap String where
  bounds := [65, 70, 72, 75]
  values := ["<\uFFFC>"]
  fills := true
  wellFormed := ⟨rfl, .inl rfl, by decide⟩

/-- A value that no range has. -/
def hollow : IntervalMap String where
  bounds := []
  values := ["x"]
  fills := false
  wellFormed := ⟨rfl, .inl rfl, by decide⟩

/-- A key in the first range, one between the two, one below and one above both, and one where there
is no range. -/
theorem answer_scans_boxes :
    boxes.answer 66 = .ok "<B>" ∧ boxes.answer 71 = .error (.gap 71) ∧
      boxes.answer 64 = .error (.belowFirst 64) ∧ boxes.answer 76 = .error (.aboveLast 76) ∧
      hollow.answer 66 = .error (.belowFirst 66) := by
  have hranges : boxes.toList = [((65, 70), "<\uFFFC>"), ((72, 75), "<\uFFFC>")] := by decide
  have hfirst : ((65, 70), "<\uFFFC>") ∈ boxes.toList := hranges ▸ List.mem_cons_self
  have hshown : shown true 66 "<\uFFFC>" = "<B>" := by decide +kernel
  refine ⟨?_, ?_, ?_, ?_, ?_⟩
  · rw [((answer_scans boxes 66).hit hfirst (by decide)).2]
    exact congrArg Except.ok hshown
  · have hmissed := (answer_scans boxes 71).missed (by rw [hranges]; decide)
    exact hmissed.2.2.2.2 (by decide)
  · have hmissed := (answer_scans boxes 64).missed (by rw [hranges]; decide)
    exact hmissed.2.1.2 (by decide)
  · have hmissed := (answer_scans boxes 76).missed (by rw [hranges]; decide)
    exact hmissed.2.2.1.2 (by decide)
  · have hmissed := (answer_scans hollow 66).missed (by decide)
    exact hmissed.2.1.2 (.inl rfl)

end IntervalMap

end Lettering
