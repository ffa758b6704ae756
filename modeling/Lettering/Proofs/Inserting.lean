import Lettering.Proofs.Answering

/-!
# Inserting ranges

An interval map takes new ranges one after the other, each by the positions of its two ends. This file
says what is taken and what an insertion changes.

* `Bounds.free_iff`: the positions of two ends decide whether a range lies in a gap.
* `Fits`: new ranges that hold more than one key each and share none with each other or with the
  map; `Fits.cons_iff` takes off the first one.
* `insertOne_of_clear`, `insertOne_of_not_clear`: one range is added where it is free, and refused
  where it is not; `insertEach_cases` is the run over all of them.
* `insert_exact`: an insertion succeeds exactly for ranges that fit, names the first one that does
  not, and changes no answer but those for the new keys.
-/

namespace Lettering

/-! ## 1. Gaps -/

namespace Bounds

/-- The ranges of a list that is put together behind a range. -/
theorem toRanges_append {front : List Nat} (h : front.length % 2 = 0) (back : List Nat) :
    toRanges (front ++ back) = toRanges front ++ toRanges back := by
  fun_induction toRanges front with
  | case1 lo hi rest ih =>
    have hrest : rest.length % 2 = 0 := by
      simp only [List.length_cons] at h
      omega
    rw [List.cons_append, List.cons_append, toRanges, ih hrest, List.cons_append]
  | case2 front hshort =>
    match front, hshort with
    | [], _ => rfl
    | [_], _ => cases h
    | a :: b :: rest, hshort => exact absurd rfl (hshort a b rest)

/-- A pair of bounds put in at an even position is a range between those before and those behind. -/
theorem toRanges_insertPair {bounds : List Nat} {position : Nat} (heven : position % 2 = 0)
    (hle : position ≤ bounds.length) (lo hi : Nat) :
    toRanges (insertPair bounds position lo hi) =
      (toRanges bounds).take (position / 2) ++
        (lo, hi) :: (toRanges bounds).drop (position / 2) := by
  have hfront : (bounds.take position).length = position := List.length_take_of_le hle
  have hsplit : toRanges bounds =
      toRanges (bounds.take position) ++ toRanges (bounds.drop position) := by
    rw [← toRanges_append (by rw [hfront]; exact heven), List.take_append_drop]
  have hcount : (toRanges (bounds.take position)).length = position / 2 := by
    rw [length_toRanges, hfront]
  rw [insertPair, toRanges_append (by rw [hfront]; exact heven), toRanges, hsplit,
    List.take_left' hcount, List.drop_left' hcount]

theorem contains_getElem {bounds : List Nat} (hs : Increasing bounds) {i : Nat}
    (hi : i < bounds.length) : contains bounds bounds[i] = true := by
  rw [contains, (locate_found_iff_mem hs _).2 (List.getElem_mem hi), Bool.true_or]

/-- The keys between two ends of one position have this position. -/
theorem Rank.of_ends {bounds : List Nat} {lo hi key r : Nat} (hlo : Rank bounds lo r)
    (hhi : Rank bounds hi r) (hle : lo ≤ key) (hge : key ≤ hi) : Rank bounds key r where
  le_length := hlo.le_length
  below i h hi := Nat.lt_of_lt_of_le (hlo.below i h hi) hle
  above i h hi := Nat.le_trans hge (hhi.above i h hi)

/-- **The positions of two ends decide whether the keys between them are free**: both must fall into
one gap. -/
theorem free_iff {bounds : List Nat} (hs : Increasing bounds) {lo hi : Nat} (hlt : lo < hi) :
    ((locate bounds lo).1 = (locate bounds hi).1 ∧ contains bounds lo = false ∧
        contains bounds hi = false) ↔
      ∀ key, lo ≤ key → key ≤ hi → contains bounds key = false := by
  have hlo := locate_rank hs lo
  have hhi := locate_rank hs hi
  constructor
  · rintro ⟨hsame, hlofree, hhifree⟩ key hle hge
    rw [← hsame] at hhi
    have hposition := (locate_rank hs key).unique (hlo.of_ends hhi hle hge)
    refine Bool.or_eq_false_iff.2 ⟨Bool.eq_false_iff.2 fun hfound => ?_, ?_⟩
    · -- a bound in between has the position of the upper end, so it is the upper end
      rw [locate_found hs, hposition] at hfound
      obtain ⟨hlen, hkey⟩ := List.getElem?_eq_some_iff.1 hfound
      have hend := hhi.above _ hlen (Nat.le_refl _)
      obtain rfl : hi = key := by omega
      have hin := contains_getElem hs hlen
      rw [hkey, hhifree] at hin
      cases hin
    · rw [hposition]
      exact (Bool.or_eq_false_iff.1 hlofree).2
  · intro hfree
    refine ⟨?_, hfree lo (Nat.le_refl lo) (Nat.le_of_lt hlt), hfree hi (Nat.le_of_lt hlt)
      (Nat.le_refl hi)⟩
    rcases Nat.lt_trichotomy (locate bounds lo).1 (locate bounds hi).1 with h | h | h
    · -- the bound at the lower position lies between the ends
      have hlen := Nat.lt_of_lt_of_le h hhi.le_length
      have hin := hfree _ (hlo.above _ hlen (Nat.le_refl _)) (Nat.le_of_lt (hhi.below _ hlen h))
      rw [contains_getElem hs hlen] at hin
      cases hin
    · exact h
    · have hlen := Nat.lt_of_lt_of_le h hlo.le_length
      have hbelow := hlo.below _ hlen h
      have habove := hhi.above _ hlen (Nat.le_refl _)
      omega

end Bounds

/-! ## 2. One range -/

/-- The number of the new range that an error names. -/
def BuildError.range? : BuildError → Option Nat
  | .overlap index => some index
  | .insideRange index => some index
  | .zeroLength index => some index
  | _ => none

namespace IntervalMap

variable {α : Type}

theorem toList_of_counted {t : IntervalMap α} (h : t.values.length = t.size) :
    t.toList = (Bounds.toRanges t.bounds).zip t.values := by
  unfold toList rangeValues spread
  rw [if_pos h]

theorem toList_spreadValues (t : IntervalMap α) : t.spreadValues.toList = t.toList :=
  toList_of_counted t.length_rangeValues

/-- No key of a range is covered. -/
def Clear (t : IntervalMap α) (r : Nat × Nat) : Prop := ∀ key, Holds r key → t.covers key = false

/-- Ranges and values with one more of each at the same place. -/
theorem zip_insert {ranges : List (Nat × Nat)} {values : List α}
    (h : ranges.length = values.length) (i : Nat) (r : Nat × Nat) (value : α) :
    (ranges.take i ++ r :: ranges.drop i).zip (values.take i ++ value :: values.drop i) =
      (ranges.zip values).take i ++ (r, value) :: (ranges.zip values).drop i := by
  have htake : (ranges.take i).length = (values.take i).length := by
    rw [List.length_take, List.length_take, h]
  rw [List.zip_append htake, List.zip_cons_cons]
  simp only [List.zip_eq_zipWith, List.take_zipWith, List.drop_zipWith]

/-- A map with one more range, put in at an even position, and a value for it. -/
theorem toList_insertPair {t t' : IntervalMap α} {position lo hi : Nat} {value : α}
    (heven : position % 2 = 0) (hle : position ≤ t.bounds.length)
    (hbounds : t'.bounds = Bounds.insertPair t.bounds position lo hi)
    (hvalues : t'.values =
      t.rangeValues.take (position / 2) ++ value :: t.rangeValues.drop (position / 2)) :
    t'.toList =
      t.toList.take (position / 2) ++ ((lo, hi), value) :: t.toList.drop (position / 2) := by
  have hsame : (Bounds.toRanges t.bounds).length = t.rangeValues.length := by
    rw [Bounds.length_toRanges, t.length_rangeValues]
  have hcounted : t'.values.length = t'.size := by
    have hlen := t.length_rangeValues
    have hpaired := t.wellFormed.paired
    rw [size, hbounds, hvalues, Bounds.length_insertPair]
    simp only [List.length_append, List.length_take, List.length_cons, List.length_drop]
    omega
  rw [toList_of_counted hcounted, hbounds, hvalues, Bounds.toRanges_insertPair heven hle,
    zip_insert hsame]
  rfl

/-- **A range whose keys are free is added**, and nothing else changes. -/
theorem insertOne_of_clear {t : IntervalMap α} {lo hi : Nat} (hlt : lo < hi)
    (hclear : t.Clear (lo, hi)) (index : Nat) (value : α) :
    ∃ t', t.insertOne index lo hi value = .ok t' ∧ t'.fills = t.fills ∧
      t'.toList.Perm (((lo, hi), value) :: t.toList) := by
  obtain ⟨hsame, hlofree, hhifree⟩ := (Bounds.free_iff t.wellFormed.increasing hlt).2
    fun key hle hge => hclear key ⟨hle, hge⟩
  have hle := (Bounds.locate_rank t.wellFormed.increasing lo).le_length
  unfold Bounds.contains at hlofree hhifree
  unfold insertOne
  split
  rename_i position loFound hiPosition hiFound hlo hhi
  unfold locate at hlo hhi
  rw [hlo] at hsame hlofree hle
  rw [hhi] at hsame hhifree
  simp only [Bool.or_eq_false_iff, beq_eq_false_iff_ne] at hsame hlofree hhifree hle
  obtain rfl := hsame
  have hfree : ¬ (position % 2 = 1 ∨ loFound = true ∨ hiFound = true) := by
    rw [hlofree.1, hhifree.1]
    simpa using hlofree.2
  rw [dif_neg (not_not_intro rfl), dif_neg hfree, dif_neg (Nat.not_le_of_lt hlt)]
  refine ⟨_, rfl, rfl, ?_⟩
  have heven : position % 2 = 0 := by omega
  rw [toList_insertPair heven hle rfl rfl]
  refine List.perm_middle.trans (List.Perm.of_eq ?_)
  rw [List.take_append_drop]

/-- A range with a key that is covered, or without two keys, is refused. -/
theorem insertOne_of_not_clear {t : IntervalMap α} {lo hi : Nat}
    (h : ¬ (lo < hi ∧ t.Clear (lo, hi))) (index : Nat) (value : α) :
    ∃ e, t.insertOne index lo hi value = .error e ∧ e.range? = some index := by
  unfold insertOne
  split
  rename_i position loFound hiPosition hiFound hlo hhi
  split
  · exact ⟨_, rfl, rfl⟩
  · rename_i hsame
    split
    · exact ⟨_, rfl, rfl⟩
    · rename_i hfree
      split
      · exact ⟨_, rfl, rfl⟩
      · rename_i hlt
        refine absurd ⟨Nat.lt_of_not_le hlt, fun key hkey => ?_⟩ h
        refine (Bounds.free_iff t.wellFormed.increasing (Nat.lt_of_not_le hlt)).1 ?_ key hkey.1 hkey.2
        unfold locate at hlo hhi
        unfold Bounds.contains
        rw [hlo, hhi]
        obtain rfl : position = hiPosition := Decidable.not_not.1 hsame
        simp only [not_or, Bool.not_eq_true] at hfree
        simp [hfree]

/-! ## 3. Ranges that fit -/

/-- Two ranges share no key. -/
def Apart (r s : Nat × Nat) : Prop := ∀ key, ¬ (Holds r key ∧ Holds s key)

/-- Ranges share no key if none can lie behind both starts and before both ends. -/
theorem apart_iff {r s : Nat × Nat} : Apart r s ↔ min r.2 s.2 < max r.1 s.1 := by
  unfold Apart Holds
  constructor
  · intro h
    have hmax := h (max r.1 s.1)
    omega
  · intro h key hk
    omega

instance (r s : Nat × Nat) : Decidable (Apart r s) := decidable_of_iff _ apart_iff.symm

theorem Apart.symm {r s : Nat × Nat} (h : Apart r s) : Apart s r := fun key hk => h key hk.symm

/-- New ranges that a map has room for: each has two keys or more, and none shares a key with
another one or with a range of the map. -/
structure Fits (t : IntervalMap α) (new : List (Nat × Nat)) : Prop where
  proper : ∀ r ∈ new, r.1 < r.2
  apart : new.Pairwise Apart
  clear : ∀ r ∈ new, ∀ e ∈ t.toList, Apart r e.1

instance (t : IntervalMap α) (new : List (Nat × Nat)) : Decidable (t.Fits new) :=
  decidable_of_iff ((∀ r ∈ new, r.1 < r.2) ∧ new.Pairwise Apart ∧
      ∀ r ∈ new, ∀ e ∈ t.toList, Apart r e.1)
    ⟨fun h => ⟨h.1, h.2.1, h.2.2⟩, fun h => ⟨h.proper, h.apart, h.clear⟩⟩

theorem clear_iff {t : IntervalMap α} {r : Nat × Nat} :
    t.Clear r ↔ ∀ e ∈ t.toList, Apart r e.1 := by
  constructor
  · rintro h e hm key ⟨hr, he⟩
    have hfree := h key hr
    rw [covers_iff.2 ⟨e, hm, he⟩] at hfree
    cases hfree
  · intro h key hr
    refine Bool.eq_false_iff.2 fun hc => ?_
    obtain ⟨e, hm, he⟩ := covers_iff.1 hc
    exact h e hm key ⟨hr, he⟩

theorem Fits.nil (t : IntervalMap α) : t.Fits [] where
  proper _ h := nomatch h
  apart := List.Pairwise.nil
  clear _ h := nomatch h

/-- **Ranges fit if the first one does, and the others do where the first one has been added.** -/
theorem Fits.cons_iff {t t' : IntervalMap α} {r : Nat × Nat} {value : α}
    (hadded : t'.toList.Perm ((r, value) :: t.toList)) (new : List (Nat × Nat)) :
    t.Fits (r :: new) ↔ (r.1 < r.2 ∧ t.Clear r) ∧ t'.Fits new := by
  have hmem (e : (Nat × Nat) × α) : e ∈ t'.toList ↔ e = (r, value) ∨ e ∈ t.toList := by
    rw [hadded.mem_iff, List.mem_cons]
  constructor
  · intro h
    obtain ⟨hfirst, hrest⟩ := List.pairwise_cons.1 h.apart
    refine ⟨⟨h.proper r List.mem_cons_self, clear_iff.2 (h.clear r List.mem_cons_self)⟩,
      fun s hs => h.proper s (List.mem_cons_of_mem r hs), hrest, fun s hs e he => ?_⟩
    rcases (hmem e).1 he with rfl | he
    · exact (hfirst s hs).symm
    · exact h.clear s (List.mem_cons_of_mem r hs) e he
  · rintro ⟨⟨hproper, hclear⟩, h⟩
    have hfirst : ∀ s ∈ new, Apart r s := fun s hs =>
      (h.clear s hs (r, value) ((hmem _).2 (.inl rfl))).symm
    refine ⟨fun s hs => ?_, List.pairwise_cons.2 ⟨hfirst, h.apart⟩, fun s hs e he => ?_⟩
    · rcases List.mem_cons.1 hs with rfl | hs
      · exact hproper
      · exact h.proper s hs
    · rcases List.mem_cons.1 hs with rfl | hs
      · exact clear_iff.1 hclear e he
      · exact h.clear s hs e ((hmem e).2 (.inr he))

theorem fits_singleton_iff {t : IntervalMap α} {r : Nat × Nat} :
    t.Fits [r] ↔ r.1 < r.2 ∧ t.Clear r := by
  constructor
  · intro h
    exact ⟨h.proper r List.mem_cons_self, clear_iff.2 (h.clear r List.mem_cons_self)⟩
  · rintro ⟨hproper, hclear⟩
    refine ⟨fun s hs => ?_, List.pairwise_singleton _ _, fun s hs => ?_⟩
    · rwa [List.mem_singleton.1 hs]
    · rw [List.mem_singleton.1 hs]
      exact clear_iff.1 hclear

theorem Fits.take {t : IntervalMap α} {new : List (Nat × Nat)} (h : t.Fits new) (count : Nat) :
    t.Fits (new.take count) where
  proper r hr := h.proper r (List.mem_of_mem_take hr)
  apart := h.apart.sublist (List.take_sublist count new)
  clear r hr := h.clear r (List.mem_of_mem_take hr)

/-- The first range that does not fit behind those before it has the number `j`. -/
structure Misfit (t : IntervalMap α) (new : List (Nat × Nat)) (j : Nat) : Prop where
  lt_length : j < new.length
  refused : ¬ t.Fits (new.take (j + 1))
  least : ∀ i < j, t.Fits (new.take (i + 1))

/-! ## 4. All ranges -/

/-- **A run of insertions** adds all of its ranges where they fit, and otherwise names the first that
does not. -/
theorem insertEach_cases (t : IntervalMap α) (index : Nat) (entries : List ((Nat × Nat) × α)) :
    (t.Fits (entries.map (·.1)) ∧ ∃ t', t.insertEach index entries = .ok t' ∧
        t'.fills = t.fills ∧ t'.toList.Perm (entries ++ t.toList)) ∨
      ∃ e j, t.insertEach index entries = .error e ∧ e.range? = some (index + j) ∧
        t.Misfit (entries.map (·.1)) j := by
  induction entries generalizing t index with
  | nil => exact .inl ⟨.nil t, t, rfl, rfl, .refl _⟩
  | cons entry rest ih =>
    obtain ⟨⟨lo, hi⟩, value⟩ := entry
    by_cases hfirst : lo < hi ∧ t.Clear (lo, hi)
    · obtain ⟨t₁, hone, hfills, hadded⟩ := insertOne_of_clear hfirst.1 hfirst.2 index value
      have hstep : t.insertEach index (((lo, hi), value) :: rest) =
          t₁.insertEach (index + 1) rest := by
        rw [insertEach, hone]
        rfl
      have hcons (new : List (Nat × Nat)) : t.Fits ((lo, hi) :: new) ↔ t₁.Fits new := by
        rw [Fits.cons_iff hadded new]
        exact and_iff_right hfirst
      rw [hstep, List.map_cons]
      rcases ih t₁ (index + 1) with ⟨hfits, t', hok, hfills', hperm⟩ | ⟨e, j, herr, hrange, hmis⟩
      · refine .inl ⟨(hcons _).2 hfits, t', hok, hfills'.trans hfills, hperm.trans ?_⟩
        exact (hadded.append_left rest).trans List.perm_middle
      · refine .inr ⟨e, j + 1, herr, ?_, Nat.succ_lt_succ hmis.lt_length,
          fun h => hmis.refused ((hcons _).1 h), fun i hi => ?_⟩
        · rw [hrange]
          congr 1
          omega
        · cases i with
          | zero => exact (hcons _).2 (.nil t₁)
          | succ i => exact (hcons _).2 (hmis.least i (Nat.lt_of_succ_lt_succ hi))
    · obtain ⟨e, hone, hrange⟩ := insertOne_of_not_clear hfirst index value
      refine .inr ⟨e, 0, ?_, hrange, Nat.zero_lt_succ _, ?_, fun i hi => nomatch hi⟩
      · rw [insertEach, hone]
        rfl
      · exact fun h => hfirst (fits_singleton_iff.1 h)

theorem fits_spreadValues_iff {t : IntervalMap α} {new : List (Nat × Nat)} :
    t.spreadValues.Fits new ↔ t.Fits new := by
  have hlist := t.toList_spreadValues
  exact ⟨fun h => ⟨h.proper, h.apart, hlist ▸ h.clear⟩,
    fun h => ⟨h.proper, h.apart, hlist.symm ▸ h.clear⟩⟩

/-- Ranges with one value each are added where they fit, and otherwise the first that does not is
named. -/
theorem insert_cases (t : IntervalMap α) {bounds : List Nat} {values : List α}
    (hpaired : bounds.length % 2 = 0) (hcounted : values.length = bounds.length / 2) :
    (t.Fits (Bounds.toRanges bounds) ∧ ∃ t', t.insert bounds values = .ok t' ∧
        t'.fills = t.fills ∧ t'.toList.Perm ((Bounds.toRanges bounds).zip values ++ t.toList)) ∨
      ∃ e j, t.insert bounds values = .error e ∧ e.range? = some j ∧
        t.Misfit (Bounds.toRanges bounds) j := by
  have hinsert : t.insert bounds values =
      t.spreadValues.insertEach 0 ((Bounds.toRanges bounds).zip values) := by
    rw [insert, if_neg (not_not_intro hpaired), if_neg (not_not_intro hcounted)]
  have hranges : ((Bounds.toRanges bounds).zip values).map (·.1) = Bounds.toRanges bounds := by
    refine List.map_fst_zip (Nat.le_of_eq ?_)
    rw [Bounds.length_toRanges, hcounted]
  have hcases := insertEach_cases t.spreadValues 0 ((Bounds.toRanges bounds).zip values)
  rw [← hinsert, hranges, toList_spreadValues] at hcases
  rcases hcases with ⟨hfits, hadded⟩ | ⟨e, j, herr, hrange, hmis⟩
  · exact .inl ⟨fits_spreadValues_iff.1 hfits, hadded⟩
  · refine .inr ⟨e, j, herr, by rw [hrange, Nat.zero_add], hmis.lt_length,
      fun h => hmis.refused (fits_spreadValues_iff.2 h),
      fun i hi => fits_spreadValues_iff.1 (hmis.least i hi)⟩

theorem insert_ok {t t' : IntervalMap α} {bounds : List Nat} {values : List α}
    (h : t.insert bounds values = .ok t') :
    bounds.length % 2 = 0 ∧ values.length = bounds.length / 2 ∧ t.Fits (Bounds.toRanges bounds) ∧
      t'.fills = t.fills ∧ t'.toList.Perm ((Bounds.toRanges bounds).zip values ++ t.toList) := by
  by_cases hpaired : bounds.length % 2 = 0
  · by_cases hcounted : values.length = bounds.length / 2
    · rcases t.insert_cases hpaired hcounted with ⟨hfits, t₁, hok, hadded⟩ | ⟨e, j, herr, -⟩
      · cases h.symm.trans hok
        exact ⟨hpaired, hcounted, hfits, hadded⟩
      · cases h.symm.trans herr
    · rw [insert, if_neg (not_not_intro hpaired), if_pos hcounted] at h
      cases h
  · rw [insert, if_pos hpaired] at h
    cases h

/-! ## 5. Insertions -/

/-- The map after an insertion; one that is refused leaves the map as it was. -/
def afterInsert (t : IntervalMap α) (bounds : List Nat) (values : List α) : IntervalMap α :=
  match t.insert bounds values with
  | .ok t' => t'
  | .error _ => t

open Marker

/-- What is said about the insertion of a bounds list with values. -/
structure Inserts [Fillable α] [LawfulFillable α] (t : IntervalMap α) (bounds : List Nat)
    (values : List α) : Prop where
  /-- It succeeds exactly for pairs of bounds that fit, with one value for each. -/
  accepted : (∃ t', t.insert bounds values = .ok t') ↔ bounds.length % 2 = 0 ∧
    values.length = bounds.length / 2 ∧ t.Fits (Bounds.toRanges bounds)
  /-- Where it fails the map stays as it was, and the error says what is wrong: the number of the
  bounds, that of the values, or the first range that does not fit behind those before it. -/
  refused {e : BuildError} : t.insert bounds values = .error e →
    t.afterInsert bounds values = t ∧
      (e = .oddBounds bounds.length ∧ bounds.length % 2 = 1 ∨
        e = .valueCount (bounds.length / 2) values.length ∧ bounds.length % 2 = 0 ∧
          values.length ≠ bounds.length / 2 ∨
        ∃ j, e.range? = some j ∧ t.Misfit (Bounds.toRanges bounds) j)
  /-- Where it succeeds the new map passes its own check, fills as before, answers the keys of each
  new range with the value of this range, and answers all other keys as before. -/
  changed {t' : IntervalMap α} : t.insert bounds values = .ok t' →
    t.afterInsert bounds values = t' ∧ t'.validate = .ok () ∧ t'.fills = t.fills ∧
      (∀ (j : Nat) r value, (Bounds.toRanges bounds)[j]? = some r → values[j]? = some value →
        ∀ key, Holds r key → t'.answer key = .ok (shown t.fills key value)) ∧
      ∀ key, (∀ r ∈ Bounds.toRanges bounds, ¬ Holds r key) →
        ∀ w, t'.answer key = .ok w ↔ t.answer key = .ok w

/-- **An insertion takes exactly the ranges that fit and changes nothing else**, in every map and for
all bounds and values. -/
theorem insert_exact [Fillable α] [LawfulFillable α] (t : IntervalMap α) (bounds : List Nat)
    (values : List α) : t.Inserts bounds values where
  accepted := by
    constructor
    · rintro ⟨t', h⟩
      obtain ⟨hpaired, hcounted, hfits, -⟩ := insert_ok h
      exact ⟨hpaired, hcounted, hfits⟩
    · rintro ⟨hpaired, hcounted, hfits⟩
      rcases t.insert_cases hpaired hcounted with ⟨-, t', hok, -⟩ | ⟨e, j, -, -, hmis⟩
      · exact ⟨t', hok⟩
      · exact absurd (hfits.take (j + 1)) hmis.refused
  refused {e} h := by
    refine ⟨by rw [afterInsert, h], ?_⟩
    by_cases hpaired : bounds.length % 2 = 0
    · by_cases hcounted : values.length = bounds.length / 2
      · rcases t.insert_cases hpaired hcounted with ⟨-, t', hok, -⟩ | ⟨e', j, herr, hrange, hmis⟩
        · cases h.symm.trans hok
        · cases h.symm.trans herr
          exact .inr (.inr ⟨j, hrange, hmis⟩)
      · rw [insert, if_neg (not_not_intro hpaired), if_pos hcounted] at h
        cases h
        exact .inr (.inl ⟨rfl, hpaired, hcounted⟩)
    · rw [insert, if_pos hpaired] at h
      cases h
      exact .inl ⟨rfl, by omega⟩
  changed {t'} h := by
    obtain ⟨-, -, -, hfills, hadded⟩ := insert_ok h
    have hmem (e : (Nat × Nat) × α) :
        e ∈ t'.toList ↔ e ∈ (Bounds.toRanges bounds).zip values ∨ e ∈ t.toList := by
      rw [hadded.mem_iff, List.mem_append]
    refine ⟨by rw [afterInsert, h], (check_eq_ok_iff _ _).2 t'.wellFormed, hfills, ?_, ?_⟩
    · intro j r value hr hvalue key hkey
      rw [answer_eq_ok_iff, hfills]
      refine ⟨(r, value), (hmem _).2 (.inl (List.mem_of_getElem? (i := j) ?_)), hkey, rfl⟩
      exact List.getElem?_zip_eq_some.2 ⟨hr, hvalue⟩
    · intro key hold w
      rw [answer_eq_ok_iff, answer_eq_ok_iff, hfills]
      refine exists_congr fun e => and_congr_left fun hkey => ?_
      rw [hmem, or_iff_right]
      intro hm
      exact hold e.1 (List.of_mem_zip hm).1 hkey.1

/-- Two ranges that touch the old ones on both sides are added and the old ones keep their value; a
second range that ends on a bound is refused with the one before it. -/
theorem insert_exact_boxes :
    (boxes.afterInsert [76, 80, 60, 64] ["!\uFFFC", "?"]).answer 78 = .ok "!N" ∧
      (boxes.afterInsert [76, 80, 60, 64] ["!\uFFFC", "?"]).answer 66 = .ok "<B>" ∧
      boxes.afterInsert [76, 80, 71, 72] ["!", "?"] = boxes := by
  have htaken := insert_exact boxes [76, 80, 60, 64] ["!\uFFFC", "?"]
  have hrefused := insert_exact boxes [76, 80, 71, 72] ["!", "?"]
  obtain ⟨t', hok⟩ := htaken.accepted.2 ⟨rfl, rfl, by decide⟩
  obtain ⟨hafter, -, -, hnew, hold⟩ := htaken.changed hok
  refine ⟨?_, ?_, ?_⟩
  · have hshown : shown true 78 "!\uFFFC" = "!N" := by decide +kernel
    rw [hafter, hnew 0 (76, 80) "!\uFFFC" rfl rfl 78 (by decide)]
    exact congrArg Except.ok hshown
  · have hbefore : boxes.answer 66 = .ok "<B>" :=
      answer_eq_ok_iff.2 ⟨((65, 70), "<\uFFFC>"), by decide, by decide, by decide +kernel⟩
    rw [hafter]
    exact (hold 66 (by decide) "<B>").2 hbefore
  · have hnot : ¬ boxes.Fits (Bounds.toRanges [76, 80, 71, 72]) := by decide
    cases herr : boxes.insert [76, 80, 71, 72] ["!", "?"] with
    | ok t' => exact absurd (hrefused.accepted.1 ⟨t', herr⟩).2.2 hnot
    | error e => exact (hrefused.refused herr).1

end IntervalMap

end Lettering
