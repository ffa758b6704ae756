import Lettering.Proofs.Inserting
import Lettering.Proofs.Results

/-!
# Ranges inserted in another order

Ranges that go into a map in one order go into it in every order and in any number of insertions, and
leave the same map. Each range is put in at a place that depends on those before it, so the maps are
compared by a canonical form.

* `eq_of_perm`: a map with a value for each range is given by its list of ranges, and the order of
  this list by the ranges.
* `insertPairs_eq_ok_iff`: what an insertion comes to, said without any place or order.
* `Fits.perm`, `Fits.append_iff`: whether ranges fit does not depend on their order, and they may be
  added in two portions.
* `insert_rearranged` puts these together.
-/

namespace Lettering

/-! ## 1. Bounds and ranges -/

namespace Bounds

/-- The bounds of a row of ranges. -/
def ofPairs (ranges : List (Nat × Nat)) : List Nat := ranges.flatMap fun r => [r.1, r.2]

theorem ofPairs_cons (r : Nat × Nat) (ranges : List (Nat × Nat)) :
    ofPairs (r :: ranges) = r.1 :: r.2 :: ofPairs ranges := rfl

theorem length_ofPairs (ranges : List (Nat × Nat)) :
    (ofPairs ranges).length = 2 * ranges.length := by
  induction ranges with
  | nil => rfl
  | cons r ranges ih =>
    rw [ofPairs_cons, List.length_cons, List.length_cons, ih, List.length_cons]
    omega

theorem toRanges_ofPairs (ranges : List (Nat × Nat)) : toRanges (ofPairs ranges) = ranges := by
  induction ranges with
  | nil => rfl
  | cons r ranges ih => rw [ofPairs_cons, toRanges, ih]

/-- Bounds that come in pairs are those of their ranges. -/
theorem ofPairs_toRanges {bounds : List Nat} (h : bounds.length % 2 = 0) :
    ofPairs (toRanges bounds) = bounds := by
  fun_induction toRanges bounds with
  | case1 lo hi rest ih =>
    have hrest : rest.length % 2 = 0 := by
      simp only [List.length_cons] at h
      omega
    rw [ofPairs_cons, ih hrest]
  | case2 bounds hshort =>
    cases bounds with
    | nil => rfl
    | cons a bounds =>
      cases bounds with
      | nil => cases h
      | cons b rest => exact absurd rfl (hshort a b rest)

theorem mem_of_mem_toRanges {bounds : List Nat} {r : Nat × Nat} (h : r ∈ toRanges bounds) :
    r.1 ∈ bounds := by
  obtain ⟨i, hi⟩ := List.mem_iff_getElem?.1 h
  exact List.mem_of_getElem? ((getElem?_toRanges bounds i r.1 r.2).1 hi).1

/-- The ranges of increasing bounds start one behind the other. -/
theorem pairwise_toRanges {bounds : List Nat} (hs : Increasing bounds) :
    (toRanges bounds).Pairwise fun r s => r.1 < s.1 := by
  fun_induction toRanges bounds with
  | case1 lo hi rest ih =>
    obtain ⟨hlo, hhi⟩ := List.pairwise_cons.1 hs
    refine List.pairwise_cons.2 ⟨fun s hm => ?_, ih (List.pairwise_cons.1 hhi).2⟩
    exact hlo s.1 (List.mem_cons_of_mem hi (mem_of_mem_toRanges hm))
  | case2 => exact List.Pairwise.nil

end Bounds

namespace IntervalMap

variable {α : Type}

/-! ## 2. A map and its list of ranges -/

/-- The map has a value of its own for each range. -/
def Spread (t : IntervalMap α) : Prop := t.values.length = t.size

theorem map_fst_toList (t : IntervalMap α) : t.toList.map (·.1) = Bounds.toRanges t.bounds := by
  refine List.map_fst_zip (Nat.le_of_eq ?_)
  rw [Bounds.length_toRanges, t.length_rangeValues]

theorem bounds_eq (t : IntervalMap α) : t.bounds = Bounds.ofPairs (t.toList.map (·.1)) := by
  rw [map_fst_toList, Bounds.ofPairs_toRanges t.wellFormed.paired]

theorem Spread.values_eq {t : IntervalMap α} (h : t.Spread) : t.values = t.toList.map (·.2) := by
  rw [toList_of_counted h, List.map_snd_zip]
  rw [h, Bounds.length_toRanges]
  exact Nat.le_refl _

theorem pairwise_toList (t : IntervalMap α) : t.toList.Pairwise fun e f => e.1.1 < f.1.1 := by
  have hranges := Bounds.pairwise_toRanges t.wellFormed.increasing
  rw [← map_fst_toList, List.pairwise_map] at hranges
  exact hranges

/-- **Maps with a value for each range are equal if they have the same ranges**, in whatever order
these are named. -/
theorem eq_of_perm {t s : IntervalMap α} (ht : t.Spread) (hs : s.Spread) (hfills : t.fills = s.fills)
    (hperm : t.toList.Perm s.toList) : t = s := by
  have hlist : t.toList = s.toList :=
    hperm.eq_of_pairwise (fun _ _ _ _ hlt hgt => absurd hlt (Nat.lt_asymm hgt)) t.pairwise_toList
      s.pairwise_toList
  have hbounds : t.bounds = s.bounds := by rw [t.bounds_eq, s.bounds_eq, hlist]
  have hvalues : t.values = s.values := by rw [ht.values_eq, hs.values_eq, hlist]
  cases t
  cases s
  cases hbounds
  cases hvalues
  cases hfills
  rfl

/-! ## 3. What an insertion comes to -/

theorem spread_spreadValues (t : IntervalMap α) : t.spreadValues.Spread := t.length_rangeValues

theorem spread_of_insertOne {t t' : IntervalMap α} {index lo hi : Nat} {value : α}
    (h : t.insertOne index lo hi value = .ok t') : t'.Spread := by
  unfold insertOne at h
  split at h
  rename_i position loFound hiPosition hiFound hlo hhi
  split at h
  · cases h
  · split at h
    · cases h
    · split at h
      · cases h
      · cases h
        have hcount := t.length_rangeValues
        have hle := (Bounds.locate_rank t.wellFormed.increasing lo).le_length
        unfold Spread size
        simp only [List.length_append, List.length_take, List.length_cons, List.length_drop,
          Bounds.length_insertPair]
        omega

/-- A run of insertions keeps a value for each range. -/
theorem spread_of_insertEach {t t' : IntervalMap α} {index : Nat}
    {entries : List ((Nat × Nat) × α)} (ht : t.Spread)
    (h : t.insertEach index entries = .ok t') : t'.Spread := by
  induction entries generalizing t index with
  | nil =>
    cases h
    exact ht
  | cons entry rest ih =>
    obtain ⟨t₁, hone, hrest⟩ := exists_of_bind_ok h
    exact ih (spread_of_insertOne hone) hrest

/-- Ranges with their values put into a map. -/
def insertPairs (t : IntervalMap α) (entries : List ((Nat × Nat) × α)) :
    Except BuildError (IntervalMap α) :=
  t.insert (Bounds.ofPairs (entries.map (·.1))) (entries.map (·.2))

theorem insertPairs_eq (t : IntervalMap α) (entries : List ((Nat × Nat) × α)) :
    t.insertPairs entries = t.spreadValues.insertEach 0 entries := by
  have hlen := Bounds.length_ofPairs (entries.map (·.1))
  have hzip : (entries.map (·.1)).zip (entries.map (·.2)) = entries := by
    rw [List.zip_map']
    exact List.map_id' entries
  rw [List.length_map] at hlen
  unfold insertPairs insert
  rw [if_neg (by omega), if_neg (by rw [List.length_map]; omega), Bounds.toRanges_ofPairs, hzip]

theorem insertPairs_ok {t t' : IntervalMap α} {entries : List ((Nat × Nat) × α)}
    (h : t.insertPairs entries = .ok t') : t.Fits (entries.map (·.1)) ∧ t'.Spread ∧
      t'.fills = t.fills ∧ t'.toList.Perm (entries ++ t.toList) := by
  rw [insertPairs_eq] at h
  have hcases := insertEach_cases t.spreadValues 0 entries
  rw [toList_spreadValues, fits_spreadValues_iff] at hcases
  rcases hcases with ⟨hfits, s, hok, hfills, hperm⟩ | ⟨e, j, herr, -⟩
  · cases h.symm.trans hok
    exact ⟨hfits, spread_of_insertEach t.spread_spreadValues h, hfills, hperm⟩
  · cases h.symm.trans herr

theorem exists_insertPairs {t : IntervalMap α} {entries : List ((Nat × Nat) × α)}
    (h : t.Fits (entries.map (·.1))) : ∃ t', t.insertPairs entries = .ok t' := by
  rw [insertPairs_eq]
  rcases insertEach_cases t.spreadValues 0 entries with ⟨-, s, hok, -⟩ | ⟨e, j, -, -, hmisfit⟩
  · exact ⟨s, hok⟩
  · exact absurd ((fits_spreadValues_iff.2 h).take (j + 1)) hmisfit.refused

/-- **What an insertion comes to**: where the ranges fit, to the map that has a value for each range
and the new ranges besides the old ones. -/
theorem insertPairs_eq_ok_iff {t t' : IntervalMap α} {entries : List ((Nat × Nat) × α)} :
    t.insertPairs entries = .ok t' ↔ t.Fits (entries.map (·.1)) ∧ t'.Spread ∧
      t'.fills = t.fills ∧ t'.toList.Perm (entries ++ t.toList) := by
  constructor
  · exact insertPairs_ok
  · rintro ⟨hfits, hspread, hfills, hperm⟩
    obtain ⟨s, hs⟩ := exists_insertPairs hfits
    obtain ⟨-, hspread', hfills', hperm'⟩ := insertPairs_ok hs
    rw [hs, eq_of_perm hspread' hspread (hfills'.trans hfills.symm) (hperm'.trans hperm.symm)]

/-! ## 4. Ranges that fit -/

theorem Fits.perm {t : IntervalMap α} {new other : List (Nat × Nat)} (h : t.Fits new)
    (hperm : new.Perm other) : t.Fits other where
  proper r hr := h.proper r (hperm.mem_iff.2 hr)
  apart := (hperm.pairwise_iff Apart.symm).1 h.apart
  clear r hr := h.clear r (hperm.mem_iff.2 hr)

/-- **Ranges fit if some of them do, and the others do where these have been added.** -/
theorem Fits.append_iff {t s : IntervalMap α} {front : List ((Nat × Nat) × α)}
    (hadded : s.toList.Perm (front ++ t.toList)) (back : List (Nat × Nat)) :
    t.Fits (front.map (·.1) ++ back) ↔ t.Fits (front.map (·.1)) ∧ s.Fits back := by
  have hmem (e : (Nat × Nat) × α) : e ∈ s.toList ↔ e ∈ front ∨ e ∈ t.toList := by
    rw [hadded.mem_iff, List.mem_append]
  constructor
  · intro h
    obtain ⟨hfront, hback, hcross⟩ := List.pairwise_append.1 h.apart
    refine ⟨⟨fun r hr => h.proper r (List.mem_append_left _ hr), hfront,
      fun r hr => h.clear r (List.mem_append_left _ hr)⟩,
      fun r hr => h.proper r (List.mem_append_right _ hr), hback, fun r hr e he => ?_⟩
    rcases (hmem e).1 he with he | he
    · exact (hcross e.1 (List.mem_map_of_mem he) r hr).symm
    · exact h.clear r (List.mem_append_right _ hr) e he
  · rintro ⟨hfront, hback⟩
    refine ⟨fun r hr => ?_, List.pairwise_append.2 ⟨hfront.apart, hback.apart, ?_⟩,
      fun r hr e he => ?_⟩
    · rcases List.mem_append.1 hr with hr | hr
      · exact hfront.proper r hr
      · exact hback.proper r hr
    · intro r hr r' hr'
      obtain ⟨e, he, rfl⟩ := List.mem_map.1 hr
      exact (hback.clear r' hr' e ((hmem e).2 (.inl he))).symm
    · rcases List.mem_append.1 hr with hr | hr
      · exact hfront.clear r hr e he
      · exact hback.clear r hr e ((hmem e).2 (.inr he))

/-! ## 5. Orders and portions -/

/-- What is said about ranges that are put into a map with their values. -/
structure Rearranges (t : IntervalMap α) (entries : List ((Nat × Nat) × α)) : Prop where
  /-- In any other order they are taken too, and give the same map. -/
  permuted {t' : IntervalMap α} {other : List ((Nat × Nat) × α)} : other.Perm entries →
    t.insertPairs entries = .ok t' → t.insertPairs other = .ok t'
  /-- In two portions they are taken exactly if they are in one, and give the same map. -/
  portioned {t' : IntervalMap α} {front back : List ((Nat × Nat) × α)} : entries = front ++ back →
    (t.insertPairs entries = .ok t' ↔
      ∃ s, t.insertPairs front = .ok s ∧ s.insertPairs back = .ok t')

/-- **Neither the order of new ranges nor their portions matter**, in every map: with a value for
each range, with a shared one, and without ranges. -/
theorem insert_rearranged (t : IntervalMap α) (entries : List ((Nat × Nat) × α)) :
    t.Rearranges entries where
  permuted {t' other} hperm h := by
    rw [insertPairs_eq_ok_iff] at h ⊢
    obtain ⟨hfits, hspread, hfills, hlist⟩ := h
    exact ⟨hfits.perm (hperm.symm.map _), hspread, hfills,
      hlist.trans (hperm.symm.append_right _)⟩
  portioned {t' front back} hsplit := by
    subst hsplit
    -- the ranges of the map between the portions, with those of the second one, are all ranges
    have hall {s : IntervalMap α} (hs : s.toList.Perm (front ++ t.toList)) :
        (back ++ s.toList).Perm (front ++ back ++ t.toList) := by
      rw [List.append_assoc]
      exact (hs.append_left back).trans (List.perm_append_comm_assoc back front t.toList)
    constructor
    · intro h
      obtain ⟨hfits, hspread, hfills, hlist⟩ := insertPairs_ok h
      rw [List.map_append] at hfits
      have hfront := hfits.take (front.map (·.1)).length
      rw [List.take_left] at hfront
      obtain ⟨s, hs⟩ := exists_insertPairs hfront
      obtain ⟨-, -, hfills', hlist'⟩ := insertPairs_ok hs
      exact ⟨s, hs, insertPairs_eq_ok_iff.2 ⟨((Fits.append_iff hlist' _).1 hfits).2, hspread,
        hfills.trans hfills'.symm, hlist.trans (hall hlist').symm⟩⟩
    · rintro ⟨s, hs, h⟩
      obtain ⟨hfront, -, hfills', hlist'⟩ := insertPairs_ok hs
      obtain ⟨hback, hspread, hfills, hlist⟩ := insertPairs_ok h
      rw [insertPairs_eq_ok_iff, List.map_append]
      exact ⟨(Fits.append_iff hlist' _).2 ⟨hfront, hback⟩, hspread, hfills.trans hfills',
        hlist.trans (hall hlist')⟩

/-- Two ranges with a value each, where `hollow` has none. -/
def filled : IntervalMap String where
  bounds := [1, 2, 3, 4]
  values := ["a", "b"]
  fills := false
  wellFormed := ⟨rfl, .inr rfl, by decide⟩

/-- Two ranges around those of a map that shares a value are taken in both orders; two ranges that
are put into a map without any are taken one by one too. -/
theorem insert_rearranged_boxes :
    (∃ t', boxes.insertPairs [((76, 80), "!"), ((60, 64), "?")] = .ok t' ∧
      boxes.insertPairs [((60, 64), "?"), ((76, 80), "!")] = .ok t') ∧
    ∃ s, hollow.insertPairs [((3, 4), "b")] = .ok s ∧
      s.insertPairs [((1, 2), "a")] = .ok filled := by
  constructor
  · have hfits : boxes.Fits ([((76, 80), "!"), ((60, 64), "?")].map (·.1)) := by decide
    obtain ⟨t', ht'⟩ := exists_insertPairs hfits
    exact ⟨t', ht', (insert_rearranged boxes _).permuted (by decide) ht'⟩
  · have hboth : hollow.insertPairs [((3, 4), "b"), ((1, 2), "a")] = .ok filled :=
      insertPairs_eq_ok_iff.2 ⟨by decide, rfl, rfl, by decide⟩
    have hsplit : [((3, 4), "b"), ((1, 2), "a")] = [((3, 4), "b")] ++ [((1, 2), "a")] := rfl
    exact ((insert_rearranged hollow _).portioned hsplit).1 hboth

end IntervalMap

end Lettering
