import Lettering.Interval.Error

/-!
# Bounds lists

Disjoint ranges are written as one flat list of bounds: the first and the last key of the first
range, of the second range, and so on. The list is strictly increasing, so a key's position in it
tells by its parity whether the key lies inside a range.

* `locate` finds the position of a key by bisection; `Rank` says what a position is: every bound
  before it is smaller than the key, and no bound from it on.
* `locate_rank` and `locate_found`: on an increasing list the bisection gives the rank, and the
  flag says whether the key is itself a bound.
* Every index that the bisection reads is inside the list; the proof is part of each step.
* `ofRanges` and `toRanges` go between a bounds list and the ranges themselves.
-/

namespace Lettering.Bounds

/-! ## 1. Order -/

/-- Bounds in strictly increasing order. -/
def Increasing (bounds : List Nat) : Prop := bounds.Pairwise (· < ·)

instance (bounds : List Nat) : Decidable (Increasing bounds) :=
  inferInstanceAs (Decidable (bounds.Pairwise (· < ·)))

/-- The position of the first bound that is not larger than the one before it; `index` is the
position of the head. -/
def firstDrop (index : Nat) : List Nat → Option Nat
  | a :: b :: rest => if b ≤ a then some (index + 1) else firstDrop (index + 1) (b :: rest)
  | _ => none

theorem increasing_cons_cons {a b : Nat} {rest : List Nat} :
    Increasing (a :: b :: rest) ↔ a < b ∧ Increasing (b :: rest) := by
  simp only [Increasing, List.pairwise_cons, List.mem_cons]
  constructor
  · intro h
    exact ⟨h.1 b (Or.inl rfl), h.2⟩
  · intro ⟨hab, hb, hr⟩
    refine ⟨?_, hb, hr⟩
    intro x hx
    rcases hx with rfl | hx
    · exact hab
    · exact Nat.lt_trans hab (hb x hx)

/-- No bound drops exactly when the list is increasing. -/
theorem firstDrop_eq_none_iff (index : Nat) (bounds : List Nat) :
    firstDrop index bounds = none ↔ Increasing bounds := by
  induction bounds generalizing index with
  | nil => simp [firstDrop, Increasing]
  | cons a rest ih =>
    cases rest with
    | nil => simp [firstDrop, Increasing]
    | cons b rest =>
      rw [increasing_cons_cons, firstDrop]
      by_cases h : b ≤ a
      · simp only [if_pos h, reduceCtorEq, false_iff, not_and]
        omega
      · rw [if_neg h, ih]
        constructor
        · intro hi
          exact ⟨by omega, hi⟩
        · intro hi
          exact hi.2

theorem Increasing.getElem_lt {bounds : List Nat} (h : Increasing bounds) {i j : Nat}
    (hij : i < j) (hj : j < bounds.length) : bounds[i] < bounds[j] :=
  List.pairwise_iff_getElem.1 h i j (by omega) hj hij

/-! ## 2. Ranges -/

/-- The ranges of a bounds list. -/
def toRanges : List Nat → List (Nat × Nat)
  | lo :: hi :: rest => (lo, hi) :: toRanges rest
  | _ => []

/-- The bounds of a list of ranges, checked one after the other: a range must not be reversed or a
single key, and must start past the end of the one before it. -/
def ofRangesFrom (index : Nat) (lastEnd : Option Nat) :
    List (Nat × Nat) → Except BuildError (List Nat)
  | [] => .ok []
  | (start, finish) :: rest =>
    if finish < start then .error (.startAfterEnd start finish)
    else if start = finish then .error (.zeroLength index)
    else if lastEnd.any (start ≤ ·) then .error (.notIncreasing (index * 2))
    else (ofRangesFrom (index + 1) (some finish) rest).map fun bounds =>
      start :: finish :: bounds

/-- The bounds list of the given ranges. -/
def ofRanges (ranges : List (Nat × Nat)) : Except BuildError (List Nat) :=
  ofRangesFrom 0 none ranges

/-! ## 3. Bisection -/

/-- Narrows the window from `lo` to `hi` around a key. The ends themselves are only compared when
the window cannot be halved any more. -/
def bisect (bounds : List Nat) (key lo hi : Nat) (h : lo ≤ hi ∧ hi < bounds.length) :
    Nat × Bool :=
  if wide : 1 < hi - lo then
    let mid := lo + (hi - lo) / 2
    have hm : mid < bounds.length := by omega
    if key = bounds[mid] then (mid, true)
    else if key < bounds[mid] then bisect bounds key lo mid (by omega)
    else bisect bounds key mid hi (by omega)
  else
    have hlo : lo < bounds.length := by omega
    have hhi : hi < bounds.length := h.2
    if bounds[lo] < key then (hi, key == bounds[hi]) else (lo, key == bounds[lo])
termination_by hi - lo

/-- The position of a key and whether it is a bound. A key that is no bound gets the position at
which it would be inserted: `0` below the first bound, the length above the last, an odd position
inside a range and an even one in a gap. -/
def locate (bounds : List Nat) (key : Nat) : Nat × Bool :=
  if h : bounds.length = 0 then (0, false)
  else
    have hl : bounds.length - 1 < bounds.length := by omega
    if bounds[bounds.length - 1] < key then (bounds.length, false)
    else bisect bounds key 0 (bounds.length - 1) ⟨Nat.zero_le _, hl⟩

/-- Whether a key lies inside a range. -/
def contains (bounds : List Nat) (key : Nat) : Bool :=
  (locate bounds key).2 || (locate bounds key).1 % 2 == 1

/-! ## 4. What a position is -/

/-- The position `r` separates the bounds smaller than the key from the rest. -/
structure Rank (bounds : List Nat) (key r : Nat) : Prop where
  le_length : r ≤ bounds.length
  below : ∀ i (h : i < bounds.length), i < r → bounds[i] < key
  above : ∀ i (h : i < bounds.length), r ≤ i → key ≤ bounds[i]

/-- There is only one such position. -/
theorem Rank.unique {bounds : List Nat} {key r s : Nat} (hr : Rank bounds key r)
    (hs : Rank bounds key s) : r = s := by
  have h1 := hr.le_length
  have h2 := hs.le_length
  rcases Nat.lt_trichotomy r s with h | h | h
  · have h3 := hs.below r (by omega) h
    have h4 := hr.above r (by omega) (Nat.le_refl r)
    omega
  · exact h
  · have h3 := hr.below s (by omega) h
    have h4 := hs.above s (by omega) (Nat.le_refl s)
    omega

/-- The answer of a search: a rank, with a flag that tells whether the key is a bound. -/
def Located (bounds : List Nat) (key : Nat) (answer : Nat × Bool) : Prop :=
  Rank bounds key answer.1 ∧ (answer.2 = true ↔ bounds[answer.1]? = some key)

theorem bisect_located {bounds : List Nat} (hs : Increasing bounds) (key lo hi : Nat)
    (h : lo ≤ hi ∧ hi < bounds.length)
    (hlo : lo = 0 ∨ ∃ hl : lo < bounds.length, bounds[lo] < key)
    (hhi : ∃ hl : hi < bounds.length, key ≤ bounds[hi]) :
    Located bounds key (bisect bounds key lo hi h) := by
  fun_induction bisect bounds key lo hi h with
  | case1 lo hi h wide mid hm heq =>
    refine ⟨⟨by omega, ?_, ?_⟩, ?_⟩
    · intro i hi' hlt
      dsimp only at hlt
      rw [heq]
      exact hs.getElem_lt hlt hm
    · intro i hi' hle
      dsimp only at hle
      rcases Nat.lt_or_eq_of_le hle with hlt | rfl
      · rw [heq]
        exact Nat.le_of_lt (hs.getElem_lt hlt hi')
      · omega
    · simp [hm, heq]
  | case2 lo hi h wide mid hm hne hlt ih =>
    exact ih hlo ⟨hm, Nat.le_of_lt hlt⟩
  | case3 lo hi h wide mid hm hne hnlt ih =>
    exact ih (Or.inr ⟨hm, by omega⟩) hhi
  | case4 lo hi h wide hlo' hhi' hlt =>
    obtain ⟨_, hkey⟩ := hhi
    have hne : hi ≠ lo := by
      intro e
      subst e
      omega
    have hsucc : hi = lo + 1 := by omega
    refine ⟨⟨by omega, ?_, ?_⟩, ?_⟩
    · intro i hi' hlt'
      rcases Nat.lt_or_eq_of_le (show i ≤ lo by omega) with hil | rfl
      · have := hs.getElem_lt hil hlo'
        omega
      · exact hlt
    · intro i hi' hle
      dsimp only at hle
      rcases Nat.lt_or_eq_of_le hle with hil | rfl
      · have := hs.getElem_lt hil hi'
        omega
      · exact hkey
    · simp only [beq_iff_eq, List.getElem?_eq_getElem hhi', Option.some.injEq]
      exact eq_comm
  | case5 lo hi h wide hlo' hhi' hnlt =>
    have hzero : lo = 0 := by
      rcases hlo with rfl | ⟨_, hl⟩
      · rfl
      · omega
    refine ⟨⟨by omega, ?_, ?_⟩, ?_⟩
    · intro i hi' hlt'
      omega
    · intro i hi' hle
      dsimp only at hle
      rcases Nat.lt_or_eq_of_le hle with hil | rfl
      · have := hs.getElem_lt hil hi'
        omega
      · omega
    · simp only [beq_iff_eq, List.getElem?_eq_getElem hlo', Option.some.injEq]
      exact eq_comm

theorem locate_located {bounds : List Nat} (hs : Increasing bounds) (key : Nat) :
    Located bounds key (locate bounds key) := by
  unfold locate
  split
  · rename_i h
    refine ⟨⟨by omega, ?_, ?_⟩, ?_⟩
    · intro i hi
      omega
    · intro i hi
      omega
    · simp [List.length_eq_zero_iff.1 h]
  · rename_i h
    have hl : bounds.length - 1 < bounds.length := by omega
    dsimp only
    split
    · rename_i hlt
      refine ⟨⟨Nat.le_refl _, ?_, ?_⟩, ?_⟩
      · intro i hi _
        rcases Nat.lt_or_eq_of_le (show i ≤ bounds.length - 1 by omega) with hil | rfl
        · have := hs.getElem_lt hil hl
          omega
        · exact hlt
      · intro i hi hle
        dsimp only at hle
        omega
      · simp
    · rename_i hnlt
      exact bisect_located hs key 0 (bounds.length - 1) _ (Or.inl rfl) ⟨hl, by omega⟩

/-- The bisection gives the rank of the key. -/
theorem locate_rank {bounds : List Nat} (hs : Increasing bounds) (key : Nat) :
    Rank bounds key (locate bounds key).1 := (locate_located hs key).1

/-- The flag tells whether the bound at the rank is the key. -/
theorem locate_found {bounds : List Nat} (hs : Increasing bounds) (key : Nat) :
    (locate bounds key).2 = true ↔ bounds[(locate bounds key).1]? = some key :=
  (locate_located hs key).2

/-- A key whose position counts as inside has a bound at that position. -/
theorem locate_lt_length {bounds : List Nat} (hs : Increasing bounds) (key : Nat)
    (h : (locate bounds key).2 = true ∨ (locate bounds key).1 ≠ bounds.length) :
    (locate bounds key).1 < bounds.length := by
  have hle := (locate_rank hs key).le_length
  rcases h with hf | hne
  · have hsome := (locate_found hs key).1 hf
    exact (List.getElem?_eq_some_iff.1 hsome).1
  · omega

/-! ## 5. Inserting a pair of bounds -/

/-- Two new bounds between the ones before position `at` and the ones from it on. -/
def insertPair (bounds : List Nat) (position lo hi : Nat) : List Nat :=
  bounds.take position ++ lo :: hi :: bounds.drop position

@[simp] theorem length_insertPair (bounds : List Nat) (position lo hi : Nat) :
    (insertPair bounds position lo hi).length = bounds.length + 2 := by
  simp only [insertPair, List.length_append, List.length_take, List.length_cons,
    List.length_drop]
  omega

/-- A pair that shares its rank and hits no bound keeps the list increasing. -/
theorem insertPair_increasing {bounds : List Nat} (hs : Increasing bounds) {r lo hi : Nat}
    (hlt : lo < hi) (hlo : Rank bounds lo r) (hhi : Rank bounds hi r)
    (hfound : bounds[r]? ≠ some hi) : Increasing (insertPair bounds r lo hi) := by
  have habove : ∀ x ∈ bounds.drop r, hi < x := by
    intro x hx
    obtain ⟨i, hi', rfl⟩ := List.mem_iff_getElem.1 hx
    rw [List.length_drop] at hi'
    rw [List.getElem_drop]
    rcases Nat.eq_zero_or_pos i with rfl | hpos
    · have hge := hhi.above r (by omega) (Nat.le_refl r)
      have hne : bounds[r] ≠ hi := by
        intro e
        exact hfound (List.getElem?_eq_some_iff.2 ⟨by omega, e⟩)
      simp only [Nat.add_zero]
      omega
    · have hge := hhi.above r (by omega) (Nat.le_refl r)
      have hstep := hs.getElem_lt (show r < r + i by omega) (by omega)
      omega
  have hbelow : ∀ x ∈ bounds.take r, x < lo := by
    intro x hx
    obtain ⟨i, hi', rfl⟩ := List.mem_iff_getElem.1 hx
    rw [List.length_take] at hi'
    rw [List.getElem_take]
    exact hlo.below i (by omega) (by omega)
  unfold Increasing insertPair
  rw [List.pairwise_append, List.pairwise_cons, List.pairwise_cons]
  refine ⟨List.Pairwise.sublist (List.take_sublist r bounds) hs, ⟨?_, ?_, ?_⟩, ?_⟩
  · intro x hx
    rcases List.mem_cons.1 hx with rfl | hx
    · exact hlt
    · exact Nat.lt_trans hlt (habove x hx)
  · exact habove
  · exact List.Pairwise.sublist (List.drop_sublist r bounds) hs
  · intro a ha b hb
    have h1 := hbelow a ha
    rcases List.mem_cons.1 hb with rfl | hb
    · exact h1
    · rcases List.mem_cons.1 hb with rfl | hb
      · omega
      · have := habove b hb
        omega

end Lettering.Bounds
