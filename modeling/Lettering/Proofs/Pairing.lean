import Mathlib.Data.List.Chain
import Lettering.Proofs.Rearranging

/-!
# Bounds and ranges

A bounds list is made from ranges that are checked one after the other, and an interval map checks a
bounds list by its pairs of neighbours. Both accept the same, and each gives back what the other was
given.

* `Ascending`: ranges of more than one key each that start behind one another;
  `increasing_ofPairs_iff`: exactly those have increasing bounds.
* `scan`: the check behind ranges that have passed it. `scan_append` passes over ranges in order, and
  `Breaks.scan_eq` stops at the first that is not, `Breaks` being what is wrong with it.
* `ofRanges_eq_ok_iff`, `ofRanges_eq_error_iff`: what the check comes to.
* `views_ranges` puts these together.
-/

namespace Lettering

namespace Bounds

/-! ## 1. Ranges in order -/

/-- Each range holds more than one key, and starts behind the end of the one before it. -/
structure Ascending (ranges : List (Nat × Nat)) : Prop where
  proper : ∀ r ∈ ranges, r.1 < r.2
  behind : ranges.IsChain fun r s => r.2 < s.1

instance (ranges : List (Nat × Nat)) : Decidable (Ascending ranges) :=
  decidable_of_iff ((∀ r ∈ ranges, r.1 < r.2) ∧ ranges.IsChain fun r s => r.2 < s.1)
    ⟨fun h => ⟨h.1, h.2⟩, fun h => ⟨h.proper, h.behind⟩⟩

theorem ascending_nil : Ascending [] := ⟨nofun, List.IsChain.nil⟩

theorem Ascending.of_append {before behind : List (Nat × Nat)} (h : Ascending (before ++ behind)) :
    Ascending before where
  proper r hr := h.proper r (List.mem_append_left behind hr)
  behind := h.behind.left_of_append

/-- One more range is in order behind the others if it holds more than one key and starts behind the
end of the last of them. -/
theorem ascending_concat_iff {before : List (Nat × Nat)} {r : Nat × Nat} :
    Ascending (before ++ [r]) ↔
      Ascending before ∧ r.1 < r.2 ∧ ∀ last, before.getLast? = some last → last.2 < r.1 := by
  constructor
  · intro h
    refine ⟨h.of_append, h.proper r (List.mem_append_right before List.mem_cons_self),
      fun last hlast => ?_⟩
    exact (List.isChain_append.1 h.behind).2.2 last hlast r rfl
  · rintro ⟨h, hproper, hlast⟩
    refine ⟨fun s hs => ?_, List.isChain_append.2 ⟨h.behind, List.isChain_singleton r, ?_⟩⟩
    · rcases List.mem_append.1 hs with hs | hs
      · exact h.proper s hs
      · rwa [List.mem_singleton.1 hs]
    · rintro last hl s hs
      cases hs
      exact hlast last hl

theorem ascending_cons_cons_iff {r s : Nat × Nat} {ranges : List (Nat × Nat)} :
    Ascending (r :: s :: ranges) ↔ r.1 < r.2 ∧ r.2 < s.1 ∧ Ascending (s :: ranges) := by
  constructor
  · intro h
    obtain ⟨hbehind, hrest⟩ := List.isChain_cons_cons.1 h.behind
    exact ⟨h.proper r List.mem_cons_self, hbehind,
      fun x hx => h.proper x (List.mem_cons_of_mem r hx), hrest⟩
  · rintro ⟨hproper, hbehind, h⟩
    exact ⟨List.forall_mem_cons.2 ⟨hproper, h.proper⟩, List.isChain_cons_cons.2 ⟨hbehind, h.behind⟩⟩

/-- **Ranges are in order exactly if their bounds are increasing.** -/
theorem increasing_ofPairs_iff {ranges : List (Nat × Nat)} :
    Increasing (ofPairs ranges) ↔ Ascending ranges := by
  induction ranges with
  | nil => exact iff_of_true List.Pairwise.nil ascending_nil
  | cons r ranges ih =>
    cases ranges with
    | nil =>
      rw [← List.nil_append [r], ascending_concat_iff, List.nil_append, ofPairs_cons,
        increasing_cons_cons]
      constructor
      · intro h
        exact ⟨ascending_nil, h.1, nofun⟩
      · intro h
        exact ⟨h.2.1, List.pairwise_singleton _ _⟩
    | cons s ranges =>
      rw [ascending_cons_cons_iff, ← ih, ofPairs_cons, ofPairs_cons, increasing_cons_cons,
        increasing_cons_cons]

/-! ## 2. The check -/

/-- What is wrong with a range behind ranges in order: it is reversed, it is a single key, or it
starts before the end of the last one or at it. The last error names the place of its first key among
the bounds. -/
inductive Breaks (before : List (Nat × Nat)) (r : Nat × Nat) : BuildError → Prop where
  | reversed (h : r.2 < r.1) : Breaks before r (.startAfterEnd r.1 r.2)
  | single (h : r.1 = r.2) : Breaks before r (.zeroLength before.length)
  | early {last : Nat × Nat} (hproper : r.1 < r.2) (hlast : before.getLast? = some last)
      (h : r.1 ≤ last.2) : Breaks before r (.notIncreasing (2 * before.length))

/-- The check of ranges behind others. -/
def scan (before ranges : List (Nat × Nat)) : Except BuildError (List Nat) :=
  ofRangesFrom before.length (before.getLast?.map (·.2)) ranges

variable {before ranges : List (Nat × Nat)} {r : Nat × Nat} {e : BuildError}

theorem Breaks.not_ascending (h : Breaks before r e) : ¬ Ascending (before ++ [r]) := by
  rw [ascending_concat_iff]
  rintro ⟨-, hproper, hbehind⟩
  cases h with
  | reversed h => omega
  | single h => omega
  | early _ hlast h => exact Nat.not_lt.2 h (hbehind _ hlast)

/-- A range that is not in order behind others that are breaks it in one of these ways. -/
theorem exists_breaks (hbefore : Ascending before) (h : ¬ Ascending (before ++ [r])) :
    ∃ e, Breaks before r e := by
  rcases Nat.lt_trichotomy r.1 r.2 with hlt | heq | hgt
  · rw [ascending_concat_iff, and_iff_right hbefore, and_iff_right hlt] at h
    simp only [not_forall, Nat.not_lt] at h
    obtain ⟨last, hlast, hle⟩ := h
    exact ⟨_, .early hlt hlast hle⟩
  · exact ⟨_, .single heq⟩
  · exact ⟨_, .reversed hgt⟩

/-- The check stops at a range that breaks the order. -/
theorem Breaks.scan_eq (h : Breaks before r e) (behind : List (Nat × Nat)) :
    scan before (r :: behind) = .error e := by
  obtain ⟨start, finish⟩ := r
  unfold scan ofRangesFrom
  cases h with
  | reversed h => rw [if_pos h]
  | single h =>
    have heq : start = finish := h
    rw [if_neg (by omega), if_pos heq]
  | @early last hproper hlast h =>
    have hany : (Option.map (·.2) before.getLast?).any (start ≤ ·) = true := by
      rw [hlast]
      exact decide_eq_true h
    have hlt : start < finish := hproper
    rw [if_neg (by omega), if_neg (by omega), if_pos hany, Nat.mul_comm]

/-- It goes on behind a range that does not. -/
theorem scan_cons (h : Ascending (before ++ [r])) (behind : List (Nat × Nat)) :
    scan before (r :: behind) =
      (scan (before ++ [r]) behind).map fun bounds => r.1 :: r.2 :: bounds := by
  obtain ⟨start, finish⟩ := r
  obtain ⟨-, hproper, hbehind⟩ := ascending_concat_iff.1 h
  have hlt : start < finish := hproper
  have hany : ¬ (Option.map (·.2) before.getLast?).any (start ≤ ·) = true := by
    cases hlast : before.getLast? with
    | none => exact Bool.false_ne_true
    | some last =>
      intro hle
      exact Nat.not_le.2 (hbehind last hlast) (of_decide_eq_true hle)
  rw [scan, ofRangesFrom, if_neg (by omega), if_neg (by omega), if_neg hany, scan,
    List.length_append, List.getLast?_concat]
  rfl

/-- **The check passes over ranges in order.** -/
theorem scan_append (h : Ascending (before ++ ranges)) (behind : List (Nat × Nat)) :
    scan before (ranges ++ behind) =
      (scan (before ++ ranges) behind).map (ofPairs ranges ++ ·) := by
  induction ranges generalizing before with
  | nil =>
    rw [List.nil_append, List.append_nil]
    cases scan before behind <;> rfl
  | cons r ranges ih =>
    rw [List.append_cons] at h
    rw [List.cons_append, scan_cons h.of_append, ih h, List.append_cons before r ranges]
    cases scan (before ++ [r] ++ ranges) behind <;> rfl

/-- Ranges are in order, or the first one that is not breaks it. -/
theorem ascending_or_breaks (ranges : List (Nat × Nat)) :
    Ascending ranges ∨ ∃ before r behind e, ranges = before ++ r :: behind ∧ Ascending before ∧
      Breaks before r e := by
  induction ranges using List.reverseRecOn with
  | nil => exact .inl ascending_nil
  | append_singleton ranges r ih =>
    rcases ih with h | ⟨before, x, behind, e, rfl, hbefore, hbreaks⟩
    · by_cases hr : Ascending (ranges ++ [r])
      · exact .inl hr
      · obtain ⟨e, he⟩ := exists_breaks h hr
        exact .inr ⟨ranges, r, [], e, rfl, h, he⟩
    · refine .inr ⟨before, x, behind ++ [r], e, ?_, hbefore, hbreaks⟩
      rw [List.append_assoc, List.cons_append]

/-- The check starts with nothing behind it. -/
theorem ofRanges_append (h : Ascending ranges) (behind : List (Nat × Nat)) :
    ofRanges (ranges ++ behind) = (scan ranges behind).map (ofPairs ranges ++ ·) :=
  @scan_append [] ranges h behind

theorem ofRanges_of_ascending (h : Ascending ranges) : ofRanges ranges = .ok (ofPairs ranges) := by
  have hscan := ofRanges_append h []
  rw [List.append_nil] at hscan
  rw [hscan, scan, ofRangesFrom, Except.map, List.append_nil]

theorem ofRanges_of_breaks (hbefore : Ascending before) (h : Breaks before r e)
    (behind : List (Nat × Nat)) : ofRanges (before ++ r :: behind) = .error e := by
  rw [ofRanges_append hbefore, h.scan_eq behind]
  rfl

/-- **What passes**: ranges in order, of which the bounds are made. -/
theorem ofRanges_eq_ok_iff {bounds : List Nat} :
    ofRanges ranges = .ok bounds ↔ Ascending ranges ∧ bounds = ofPairs ranges := by
  constructor
  · intro h
    rcases ascending_or_breaks ranges with hranges | ⟨before, r, behind, e, rfl, hbefore, he⟩
    · rw [ofRanges_of_ascending hranges] at h
      exact ⟨hranges, (Except.ok.inj h).symm⟩
    · rw [ofRanges_of_breaks hbefore he] at h
      cases h
  · rintro ⟨hranges, rfl⟩
    exact ofRanges_of_ascending hranges

theorem exists_ofRanges_iff : (∃ bounds, ofRanges ranges = .ok bounds) ↔ Ascending ranges := by
  simp only [ofRanges_eq_ok_iff, exists_and_left, exists_eq, and_true]

/-- **What does not**: the first range that breaks the order is reported. -/
theorem ofRanges_eq_error_iff :
    ofRanges ranges = .error e ↔ ∃ before r behind, ranges = before ++ r :: behind ∧
      Ascending before ∧ Breaks before r e := by
  constructor
  · intro h
    rcases ascending_or_breaks ranges with hranges | ⟨before, r, behind, e', rfl, hbefore, he⟩
    · rw [ofRanges_of_ascending hranges] at h
      cases h
    · rw [ofRanges_of_breaks hbefore he] at h
      cases h
      exact ⟨before, r, behind, rfl, hbefore, he⟩
  · rintro ⟨before, r, behind, rfl, hbefore, he⟩
    exact ofRanges_of_breaks hbefore he behind

end Bounds

/-! ## 3. Maps of the bounds -/

namespace IntervalMap

variable {α : Type}

/-- A map can be made of what makes one. -/
theorem exists_make_iff {bounds : List Nat} {values : List α} :
    (∃ t, make bounds values = .ok t) ↔ WellFormed bounds values.length := by
  constructor
  · rintro ⟨t, h⟩
    obtain ⟨rfl, rfl⟩ := make_ok h
    exact t.wellFormed
  · intro h
    have hcheck := (check_eq_ok_iff bounds values.length).2 h
    unfold make
    split
    · exact ⟨_, rfl⟩
    · rename_i herr
      cases hcheck.symm.trans herr

/-- **The check of a map accepts the bounds of the ranges that are in order**, with one value or with
one for each range. -/
theorem wellFormed_ofPairs_iff {ranges : List (Nat × Nat)} {values : Nat} :
    WellFormed (Bounds.ofPairs ranges) values ↔
      Bounds.Ascending ranges ∧ (values = 1 ∨ values = ranges.length) := by
  have hlen := Bounds.length_ofPairs ranges
  have hhalf : (Bounds.ofPairs ranges).length / 2 = ranges.length := by omega
  constructor
  · intro h
    rw [← hhalf]
    exact ⟨Bounds.increasing_ofPairs_iff.1 h.increasing, h.counted⟩
  · rintro ⟨hranges, hcounted⟩
    refine ⟨by omega, ?_, Bounds.increasing_ofPairs_iff.2 hranges⟩
    rwa [hhalf]

/-- The map of the bounds of some ranges lists these, each with its value. -/
theorem toList_of_make {ranges : List (Nat × Nat)} {values : List α} {t : IntervalMap α}
    (h : make (Bounds.ofPairs ranges) values = .ok t) {i : Nat} {r : Nat × Nat}
    (hr : ranges[i]? = some r) :
    ∃ value, values[if values.length = 1 then 0 else i]? = some value ∧
      t.toList[i]? = some (r, value) := by
  obtain ⟨hbounds, hvalues⟩ := make_ok h
  have hranges : Bounds.toRanges t.bounds = ranges := by
    rw [hbounds, Bounds.toRanges_ofPairs]
  have hi : i < t.size := by
    rw [← t.length_toList, ← List.length_map, map_fst_toList, hranges]
    exact (List.getElem?_eq_some_iff.1 hr).1
  have hlt : i < t.rangeValues.length := by
    rw [t.length_rangeValues]
    exact hi
  have hslot := getElem?_rangeValues hi
  rw [List.getElem?_eq_getElem hlt, slot, hvalues] at hslot
  refine ⟨_, hslot.symm, ?_⟩
  rw [toList, List.getElem?_zip_eq_some, hranges]
  exact ⟨hr, List.getElem?_eq_getElem hlt⟩

/-- **The ranges of a map give its bounds.** -/
theorem ofRanges_toList (t : IntervalMap α) :
    Bounds.ofRanges (t.toList.map (·.1)) = .ok t.bounds := by
  rw [map_fst_toList, Bounds.ofRanges_eq_ok_iff, ← Bounds.increasing_ofPairs_iff,
    Bounds.ofPairs_toRanges t.wellFormed.paired]
  exact ⟨t.wellFormed.increasing, rfl⟩

end IntervalMap

/-! ## 4. There and back -/

namespace Bounds

/-- What is said of a row of ranges, and of the maps that have these. -/
structure Views (ranges : List (Nat × Nat)) : Prop where
  /-- Bounds are made of them exactly if they are in order. -/
  accepted : (∃ bounds, ofRanges ranges = .ok bounds) ↔ Ascending ranges
  /-- Else the error is about the first range that is not in order behind those before it. -/
  refused {e : BuildError} : ofRanges ranges = .error e ↔ ∃ before r behind,
    ranges = before ++ r :: behind ∧ Ascending before ∧ ¬ Ascending (before ++ [r]) ∧
      Breaks before r e
  /-- The check of a map accepts the same ranges, laid out as bounds, -/
  agreed {α : Type} {values : List α} : values.length = 1 ∨ values.length = ranges.length →
    ((∃ t, IntervalMap.make (ofPairs ranges) values = .ok t) ↔
      ∃ bounds, ofRanges ranges = .ok bounds)
  /-- and with one value, or with one for each range, their bounds make a map, -/
  made {α : Type} {bounds : List Nat} {values : List α} : ofRanges ranges = .ok bounds →
    ((∃ t, IntervalMap.make bounds values = .ok t) ↔
      values.length = 1 ∨ values.length = ranges.length)
  /-- which lists the ranges in their order, each with its value. -/
  listed {α : Type} {bounds : List Nat} {values : List α} {t : IntervalMap α} :
    ofRanges ranges = .ok bounds → IntervalMap.make bounds values = .ok t →
      t.toList.map (·.1) = ranges ∧ ∀ (i : Nat) r, ranges[i]? = some r →
        ∃ value, values[if values.length = 1 then 0 else i]? = some value ∧
          t.toList[i]? = some (r, value)
  /-- The ranges of any map give back its bounds. -/
  returned {α : Type} {t : IntervalMap α} : t.toList.map (·.1) = ranges →
    ofRanges ranges = .ok t.bounds

/-- **Bounds and ranges are two views of the same**, for every row of ranges and every map. -/
theorem views_ranges (ranges : List (Nat × Nat)) : Views ranges where
  accepted := exists_ofRanges_iff
  refused {e} := by
    rw [ofRanges_eq_error_iff]
    refine exists_congr fun before => exists_congr fun r => exists_congr fun behind =>
      and_congr_right fun _ => and_congr_right fun _ => ?_
    exact ⟨fun h => ⟨h.not_ascending, h⟩, fun h => h.2⟩
  agreed hcounted := by
    rw [IntervalMap.exists_make_iff, IntervalMap.wellFormed_ofPairs_iff, and_iff_left hcounted,
      exists_ofRanges_iff]
  made h := by
    obtain ⟨hranges, rfl⟩ := ofRanges_eq_ok_iff.1 h
    rw [IntervalMap.exists_make_iff, IntervalMap.wellFormed_ofPairs_iff, and_iff_right hranges]
  listed h hmake := by
    obtain ⟨-, rfl⟩ := ofRanges_eq_ok_iff.1 h
    refine ⟨?_, fun i r hr => IntervalMap.toList_of_make hmake hr⟩
    rw [IntervalMap.map_fst_toList, (IntervalMap.make_ok hmake).1, toRanges_ofPairs]
  returned h := h ▸ IntervalMap.ofRanges_toList _

/-- Three ranges, the last of which ends at the last key, share a value; a range that starts at the
end of the one before it is refused, and so is a single key; a map gives its bounds back. -/
theorem views_ranges_three :
    (∃ bounds t, ofRanges [(0, 4), (6, 8), (9, 4294967295)] = .ok bounds ∧
      IntervalMap.make bounds ["x"] = .ok t ∧ t.toList[2]? = some ((9, 4294967295), "x")) ∧
      ofRanges [(2, 4), (4, 8), (9, 1)] = .error (.notIncreasing 2) ∧
      ofRanges [(7, 7)] = .error (.zeroLength 0) ∧
      ofRanges [(65, 70), (72, 75)] = .ok IntervalMap.boxes.bounds := by
  refine ⟨?_, ?_, ?_, ?_⟩
  · have hviews := views_ranges [(0, 4), (6, 8), (9, 4294967295)]
    obtain ⟨bounds, hbounds⟩ := hviews.accepted.2 (by decide)
    obtain ⟨t, ht⟩ : ∃ t, IntervalMap.make bounds ["x"] = .ok t :=
      (hviews.made hbounds).2 (.inl rfl)
    obtain ⟨value, hvalue, hlisted⟩ := (hviews.listed hbounds ht).2 2 _ rfl
    cases hvalue
    exact ⟨bounds, t, hbounds, ht, hlisted⟩
  · exact (views_ranges _).refused.2
      ⟨[(2, 4)], (4, 8), [(9, 1)], rfl, by decide, by decide, .early (by decide) rfl (by decide)⟩
  · exact (views_ranges _).refused.2 ⟨[], (7, 7), [], rfl, by decide, by decide, .single rfl⟩
  · exact (views_ranges (IntervalMap.boxes.toList.map (·.1))).returned rfl

end Bounds

end Lettering
