import Lettering.Interval.Map

/-!
# Looking up is scanning

An interval map finds the range of a key by bisection. Here the position that the bisection gives
is read as the number of a range (`Bounds.locate_of_mem_range`, `Bounds.exists_range_of_contains`),
so that looking a key up is the same as scanning the ranges in order for the one that holds it
(`IntervalMap.scan?_eq_none_iff`, `IntervalMap.answer_of_scan?`).
-/

namespace Lettering

/-! ## 1. Positions and ranges -/

namespace Bounds

/-- The ranges are the bounds two by two. -/
theorem getElem?_toRanges (bounds : List Nat) (i lo hi : Nat) :
    (toRanges bounds)[i]? = some (lo, hi) ↔
      bounds[2 * i]? = some lo ∧ bounds[2 * i + 1]? = some hi := by
  fun_induction toRanges bounds generalizing i with
  | case1 a b rest ih =>
    cases i with
    | zero => simp
    | succ i =>
      have h0 : 2 * (i + 1) = 2 * i + 1 + 1 := by omega
      rw [List.getElem?_cons_succ, ih, h0]
      simp only [List.getElem?_cons_succ]
  | case2 bounds hshort =>
    have hlen : bounds.length ≤ 1 := by
      match bounds, hshort with
      | [], _ => exact Nat.zero_le 1
      | [_], _ => exact Nat.le_refl 1
      | a :: b :: rest, h => exact absurd rfl (h a b rest)
    have hnone : bounds[2 * i + 1]? = none := List.getElem?_eq_none (by omega)
    simp [hnone]

theorem length_toRanges (bounds : List Nat) : (toRanges bounds).length = bounds.length / 2 := by
  fun_induction toRanges bounds with
  | case1 a b rest ih =>
    rw [List.length_cons, ih, List.length_cons, List.length_cons]
    omega
  | case2 bounds hshort =>
    match bounds, hshort with
    | [], _ => simp
    | [_], _ => simp
    | a :: b :: rest, h => exact absurd rfl (h a b rest)

/-- A key that is a bound has the position of this bound. -/
theorem Rank.of_getElem {bounds : List Nat} (hs : Increasing bounds) {i : Nat}
    (hi : i < bounds.length) : Rank bounds bounds[i] i where
  le_length := Nat.le_of_lt hi
  below _ _ hlt := hs.getElem_lt hlt hi
  above j hj hle := by
    rcases Nat.eq_or_lt_of_le hle with rfl | hlt
    · exact Nat.le_refl _
    · exact Nat.le_of_lt (hs.getElem_lt hlt hj)

/-- A key behind one bound and not behind the next has the position of the next. -/
theorem Rank.of_between {bounds : List Nat} (hs : Increasing bounds) {key i : Nat}
    (hi : i + 1 < bounds.length) (hlo : bounds[i] < key) (hhi : key ≤ bounds[i + 1]) :
    Rank bounds key (i + 1) where
  le_length := Nat.le_of_lt hi
  below j hj hlt := by
    rcases Nat.eq_or_lt_of_le (Nat.le_of_lt_succ hlt) with rfl | hlt
    · exact hlo
    · exact Nat.lt_trans (hs.getElem_lt hlt (by omega)) hlo
  above j hj hle := by
    rcases Nat.eq_or_lt_of_le hle with rfl | hlt
    · exact hhi
    · exact Nat.le_of_lt (Nat.lt_of_le_of_lt hhi (hs.getElem_lt hlt hj))

/-- A key inside the range of number `i` is found inside a range, and its position belongs to this
range. -/
theorem locate_of_mem_range {bounds : List Nat} (hs : Increasing bounds) {key i lo hi : Nat}
    (hr : (toRanges bounds)[i]? = some (lo, hi)) (hlo : lo ≤ key) (hhi : key ≤ hi) :
    contains bounds key = true ∧ (locate bounds key).1 / 2 = i := by
  obtain ⟨hl, hh⟩ := (getElem?_toRanges bounds i lo hi).1 hr
  obtain ⟨hil, rfl⟩ := List.getElem?_eq_some_iff.1 hl
  obtain ⟨hih, rfl⟩ := List.getElem?_eq_some_iff.1 hh
  have hrank := locate_rank hs key
  unfold contains
  rcases Nat.eq_or_lt_of_le hlo with rfl | hlt
  · -- the key is the first one of the range
    have hpos := hrank.unique (Rank.of_getElem hs hil)
    have hfound := (locate_found hs bounds[2 * i]).2 (by rw [hpos]; exact hl)
    rw [hfound, hpos]
    exact ⟨rfl, by omega⟩
  · have hpos := hrank.unique (Rank.of_between hs hih hlt hhi)
    rw [hpos]
    have hodd : (2 * i + 1) % 2 = 1 := by omega
    refine ⟨?_, by omega⟩
    rw [hodd, beq_self_eq_true, Bool.or_true]

/-- A key that is found inside a range lies in one of them. -/
theorem exists_range_of_contains {bounds : List Nat} (hs : Increasing bounds)
    (hp : bounds.length % 2 = 0) {key : Nat} (h : contains bounds key = true) :
    ∃ i lo hi : Nat, (toRanges bounds)[i]? = some (lo, hi) ∧ lo ≤ key ∧ key ≤ hi := by
  have hrank := locate_rank hs key
  have hfound := locate_found hs key
  unfold contains at h
  generalize locate bounds key = located at h hrank hfound
  obtain ⟨position, found⟩ := located
  simp only [Bool.or_eq_true, beq_iff_eq] at h hrank hfound
  have hle := hrank.le_length
  rcases Nat.mod_two_eq_zero_or_one position with heven | hodd
  · -- an even position is that of the first key of a range
    have hf : found = true := h.resolve_right (by omega)
    obtain ⟨hlt, hkey⟩ := List.getElem?_eq_some_iff.1 (hfound.1 hf)
    have hnext : position + 1 < bounds.length := by omega
    have hhalf : 2 * (position / 2) = position := by omega
    refine ⟨position / 2, bounds[position], bounds[position + 1],
      (getElem?_toRanges _ _ _ _).2 ⟨?_, ?_⟩, ?_, ?_⟩
    · rw [hhalf, List.getElem?_eq_getElem hlt]
    · rw [hhalf, List.getElem?_eq_getElem hnext]
    · exact Nat.le_of_eq hkey
    · rw [← hkey]
      exact Nat.le_of_lt (hs.getElem_lt (Nat.lt_succ_self _) hnext)
  · have hlt : position < bounds.length := by omega
    have hhalf : 2 * (position / 2) = position - 1 := by omega
    refine ⟨position / 2, bounds[position - 1], bounds[position],
      (getElem?_toRanges _ _ _ _).2 ⟨?_, ?_⟩, ?_, ?_⟩
    · rw [hhalf, List.getElem?_eq_getElem]
    · rw [hhalf, Nat.sub_add_cancel (by omega), List.getElem?_eq_getElem hlt]
    · exact Nat.le_of_lt (hrank.below _ _ (by omega))
    · exact hrank.above _ hlt (Nat.le_refl _)

end Bounds

/-! ## 2. Interval maps -/

namespace IntervalMap

variable {α : Type}

/-- The value of the first range that holds a key, the ranges gone through in order. -/
def scan? (bounds : List Nat) (values : List α) (key : Nat) : Option α :=
  (((Bounds.toRanges bounds).zip (spread (bounds.length / 2) values)).find? fun r =>
    decide (r.1.1 ≤ key ∧ key ≤ r.1.2)).map (·.2)

theorem mem_toList_iff {t : IntervalMap α} {e : (Nat × Nat) × α} :
    e ∈ t.toList ↔
      ∃ i : Nat, (Bounds.toRanges t.bounds)[i]? = some e.1 ∧ t.rangeValues[i]? = some e.2 := by
  rw [toList, List.mem_iff_getElem?]
  exact exists_congr fun i => by
    rw [List.getElem?_zip_eq_some]

theorem valueAt_eq {t : IntervalMap α} {position : Nat} {value : α}
    (h : t.rangeValues[position / 2]? = some value) (hp : position < t.bounds.length) :
    t.valueAt position hp = value := by
  obtain ⟨hlt, hv⟩ := List.getElem?_eq_some_iff.1 h
  exact hv

theorem make_ok {bounds : List Nat} {values : List α} {t : IntervalMap α}
    (h : make bounds values = .ok t) : t.bounds = bounds ∧ t.values = values := by
  unfold make at h
  split at h
  · cases h
    exact ⟨rfl, rfl⟩
  · cases h

variable [Marker.Fillable α]

/-- Where a key is covered, the answer is the value at its position. -/
theorem answer_of_covers {t : IntervalMap α} {key : Nat} (h : t.covers key = true) {value : α}
    (hv : t.rangeValues[(t.locate key).1 / 2]? = some value) :
    t.answer key = .ok (t.present value key) := by
  have hpaired := t.wellFormed.paired
  have hcov : (t.locate key).2 = true ∨ (t.locate key).1 % 2 = 1 := by
    simpa [covers, Bounds.contains, locate] using h
  unfold answer
  split
  rename_i position found hl
  rw [hl] at hcov hv
  dsimp only at hcov hv
  split
  · rw [valueAt_eq hv]
  · rename_i hf
    have hodd : position % 2 = 1 := hcov.resolve_left hf
    rw [if_neg (by omega)]
    split
    · rename_i hend
      rw [hend] at hodd
      omega
    · rw [if_neg (by omega), valueAt_eq hv]

omit [Marker.Fillable α] in
theorem covers_of_mem {t : IntervalMap α} {lo hi key : Nat} {value : α}
    (h : ((lo, hi), value) ∈ t.toList) (hlo : lo ≤ key) (hhi : key ≤ hi) : t.covers key = true := by
  obtain ⟨i, hr, -⟩ := mem_toList_iff.1 h
  exact (Bounds.locate_of_mem_range t.wellFormed.increasing hr hlo hhi).1

/-- A key inside a range is answered with the value of this range. -/
theorem answer_of_mem {t : IntervalMap α} {lo hi key : Nat} {value : α}
    (h : ((lo, hi), value) ∈ t.toList) (hlo : lo ≤ key) (hhi : key ≤ hi) :
    t.answer key = .ok (t.present value key) := by
  obtain ⟨i, hr, hv⟩ := mem_toList_iff.1 h
  obtain ⟨hc, hhalf⟩ := Bounds.locate_of_mem_range t.wellFormed.increasing hr hlo hhi
  refine answer_of_covers hc ?_
  rw [locate, hhalf]
  exact hv

omit [Marker.Fillable α] in
/-- A key that is covered lies in a range. -/
theorem exists_of_covers {t : IntervalMap α} {key : Nat} (h : t.covers key = true) :
    ∃ lo hi value, ((lo, hi), value) ∈ t.toList ∧ lo ≤ key ∧ key ≤ hi := by
  obtain ⟨i, lo, hi, hr, hlo, hhi⟩ :=
    Bounds.exists_range_of_contains t.wellFormed.increasing t.wellFormed.paired h
  have hlt : i < t.rangeValues.length := by
    rw [t.length_rangeValues, ← Bounds.length_toRanges]
    exact (List.getElem?_eq_some_iff.1 hr).1
  exact ⟨lo, hi, t.rangeValues[i], mem_toList_iff.2 ⟨i, hr, List.getElem?_eq_getElem hlt⟩, hlo,
    hhi⟩

/-! ## 3. Scanning -/

omit [Marker.Fillable α] in
/-- A scan comes to nothing exactly where the key is not covered. -/
theorem scan?_eq_none_iff {t : IntervalMap α} {key : Nat} :
    scan? t.bounds t.values key = none ↔ t.covers key = false := by
  unfold scan?
  rw [Option.map_eq_none_iff, List.find?_eq_none]
  constructor
  · intro h
    refine Bool.eq_false_iff.2 fun hc => ?_
    obtain ⟨lo, hi, value, hm, hlo, hhi⟩ := exists_of_covers hc
    exact h _ hm (decide_eq_true ⟨hlo, hhi⟩)
  · rintro hc ⟨⟨lo, hi⟩, value⟩ hm hp
    obtain ⟨hlo, hhi⟩ := of_decide_eq_true hp
    rw [covers_of_mem hm hlo hhi] at hc
    cases hc

/-- **Looking a key up gives what scanning the ranges gives.** -/
theorem answer_of_scan? {t : IntervalMap α} {key : Nat} {value : α}
    (h : scan? t.bounds t.values key = some value) :
    t.covers key = true ∧ t.answer key = .ok (t.present value key) := by
  unfold scan? at h
  obtain ⟨⟨⟨lo, hi⟩, v⟩, hf, rfl⟩ := Option.map_eq_some_iff.1 h
  have hp := List.find?_some hf
  obtain ⟨hlo, hhi⟩ := of_decide_eq_true hp
  have hm := List.mem_of_find?_eq_some hf
  exact ⟨covers_of_mem hm hlo hhi, answer_of_mem hm hlo hhi⟩

end IntervalMap

end Lettering
