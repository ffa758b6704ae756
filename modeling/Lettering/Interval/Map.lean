import Lettering.Marker
import Lettering.Interval.Bounds

/-!
# Interval maps

An interval map answers a key with the value of the range that the key lies in.

* The ranges are a bounds list; there is one value for each, or a single one that all share.
  Both facts and the order of the bounds are part of the type, so looking up never reads past a
  list.
* Where `fills` is set, markers in a value are filled with the key's character.
* `insert` adds ranges that lie in gaps and share no key with another. It takes all or none, and
  names the first that does not fit.
-/

namespace Lettering

open Marker

/-! ## 1. Well-formed maps -/

/-- Bounds and a number of values that make a map. -/
structure IntervalMap.WellFormed (bounds : List Nat) (values : Nat) : Prop where
  paired : bounds.length % 2 = 0
  counted : values = 1 ∨ values = bounds.length / 2
  increasing : Bounds.Increasing bounds

/-- Ranges with their values. -/
structure IntervalMap (α : Type) where
  bounds : List Nat
  values : List α
  fills : Bool
  wellFormed : IntervalMap.WellFormed bounds values.length

namespace IntervalMap

variable {α : Type}

instance [DecidableEq α] : DecidableEq (IntervalMap α) := fun a b =>
  if h : a.bounds = b.bounds ∧ a.values = b.values ∧ a.fills = b.fills then
    isTrue (by
      obtain ⟨ab, av, ac, aw⟩ := a
      obtain ⟨bb, bv, bc, bw⟩ := b
      obtain ⟨rfl, rfl, rfl⟩ := h
      rfl)
  else isFalse (by
    intro e
    subst e
    exact h ⟨rfl, rfl, rfl⟩)

/-- Checks bounds against a number of values, and reports the first thing wrong: an odd number of
bounds, then a wrong number of values, then a bound that does not increase. -/
def check (bounds : List Nat) (values : Nat) : Except BuildError Unit :=
  if bounds.length % 2 ≠ 0 then .error (.oddBounds bounds.length)
  else if values ≠ 1 ∧ values ≠ bounds.length / 2 then
    .error (.valueCount (bounds.length / 2) values)
  else match Bounds.firstDrop 0 bounds with
    | some index => .error (.notIncreasing index)
    | none => .ok ()

/-- The check passes exactly on what makes a map. -/
theorem check_eq_ok_iff (bounds : List Nat) (values : Nat) :
    check bounds values = .ok () ↔ WellFormed bounds values := by
  constructor
  · intro h
    unfold check at h
    split at h
    · simp at h
    · rename_i hp
      split at h
      · simp at h
      · rename_i hc
        split at h
        · simp at h
        · rename_i hd
          exact ⟨by omega, by omega, (Bounds.firstDrop_eq_none_iff 0 bounds).1 hd⟩
  · intro ⟨hp, hc, hi⟩
    unfold check
    rw [if_neg (by omega), if_neg (by omega), (Bounds.firstDrop_eq_none_iff 0 bounds).2 hi]

/-- The check of a map's own parts. -/
def validate (t : IntervalMap α) : Except BuildError Unit := check t.bounds t.values.length

/-! ## 2. Building -/

/-- The map of the given bounds and values; nothing is filled in yet. -/
def make (bounds : List Nat) (values : List α) : Except BuildError (IntervalMap α) :=
  match h : check bounds values.length with
  | .ok () => .ok ⟨bounds, values, false, (check_eq_ok_iff _ _).1 h⟩
  | .error e => .error e

/-- The map that answers one value for every key in a range. -/
def constant (bounds : List Nat) (value : α) : Except BuildError (IntervalMap α) :=
  make bounds [value]

/-- The map with filling switched on or off. -/
def withFilling (t : IntervalMap α) (on : Bool) : IntervalMap α := { t with fills := on }

/-! ## 3. Values -/

/-- The number of ranges. -/
def size (t : IntervalMap α) : Nat := t.bounds.length / 2

/-- Whether there is no range. -/
def isEmpty (t : IntervalMap α) : Bool := t.bounds.isEmpty

/-- One value per range: a shared value is repeated. -/
def spread (count : Nat) (values : List α) : List α :=
  if values.length = count then values
  else match values with
    | [] => []
    | shared :: _ => List.replicate count shared

/-- The value of each range in order. -/
def rangeValues (t : IntervalMap α) : List α := spread t.size t.values

theorem length_rangeValues (t : IntervalMap α) : t.rangeValues.length = t.bounds.length / 2 := by
  unfold rangeValues spread size
  split
  · assumption
  · rename_i hne
    have hc := t.wellFormed.counted
    split
    · rename_i hv
      simp only [hv, List.length_nil] at hc hne
      omega
    · simp

/-- Every range with the value that it answers. -/
def toList (t : IntervalMap α) : List ((Nat × Nat) × α) :=
  (Bounds.toRanges t.bounds).zip t.rangeValues

/-! ## 4. Answers -/

/-- The position of a key among the bounds. -/
def locate (t : IntervalMap α) (key : Nat) : Nat × Bool := Bounds.locate t.bounds key

/-- Whether a key lies in a range. -/
def covers (t : IntervalMap α) (key : Nat) : Bool := Bounds.contains t.bounds key

/-- The value of the range whose bounds the position belongs to. -/
def valueAt (t : IntervalMap α) (position : Nat) (h : position < t.bounds.length) : α :=
  have : position / 2 < t.rangeValues.length := by
    rw [t.length_rangeValues]
    have := t.wellFormed.paired
    omega
  t.rangeValues[position / 2]

/-- A value as the map gives it for a key. -/
def present [Fillable α] (t : IntervalMap α) (value : α) (key : Nat) : α :=
  if t.fills then (Fillable.filled? value key).getD value else value

/-- The answer for a key: the value of its range, or where the key misses the ranges. -/
def answer [Fillable α] (t : IntervalMap α) (key : Nat) : Except LookupError α :=
  match hl : t.locate key with
  | (position, found) =>
    if hf : found = true then
      .ok (t.present (t.valueAt position (by
        have := Bounds.locate_lt_length t.wellFormed.increasing key
        unfold locate at hl
        rw [hl] at this
        exact this (Or.inl hf))) key)
    else if position = 0 then .error (.belowFirst key)
    else if hn : position = t.bounds.length then .error (.aboveLast key)
    else if position % 2 = 0 then .error (.gap key)
    else .ok (t.present (t.valueAt position (by
      have := Bounds.locate_lt_length t.wellFormed.increasing key
      unfold locate at hl
      rw [hl] at this
      exact this (Or.inr hn))) key)

/-! ## 5. Inserting -/

/-- The map with one value per range in place of a shared one. -/
def spreadValues (t : IntervalMap α) : IntervalMap α where
  bounds := t.bounds
  values := t.rangeValues
  fills := t.fills
  wellFormed := ⟨t.wellFormed.paired, Or.inr t.length_rangeValues, t.wellFormed.increasing⟩

/-- Adds one range with its value. The two ends must fall at one position, in a gap and on no
bound, and the range must hold more than one key; `index` is the number that an error names. -/
def insertOne (t : IntervalMap α) (index lo hi : Nat) (value : α) :
    Except BuildError (IntervalMap α) :=
  match hlo : t.locate lo, hhi : t.locate hi with
  | (position, loFound), (hiPosition, hiFound) =>
    if hp : position ≠ hiPosition then .error (.overlap index)
    else if hi' : position % 2 = 1 ∨ loFound = true ∨ hiFound = true then
      .error (.insideRange index)
    else if hz : hi ≤ lo then .error (.zeroLength index)
    else .ok
      { bounds := Bounds.insertPair t.bounds position lo hi
        values := t.rangeValues.take (position / 2) ++ value :: t.rangeValues.drop (position / 2)
        fills := t.fills
        wellFormed := by
          have hr := t.length_rangeValues
          have hpaired := t.wellFormed.paired
          have hlo' := Bounds.locate_rank t.wellFormed.increasing lo
          have hhi' := Bounds.locate_rank t.wellFormed.increasing hi
          have hff := Bounds.locate_found t.wellFormed.increasing hi
          unfold locate at hlo hhi
          rw [hlo] at hlo'
          rw [hhi] at hhi' hff
          simp only at hlo' hhi' hff
          have hpe : hiPosition = position := by omega
          subst hpe
          refine ⟨?_, Or.inr ?_, ?_⟩
          · rw [Bounds.length_insertPair]
            omega
          · rw [Bounds.length_insertPair]
            simp only [List.length_append, List.length_take, List.length_cons, List.length_drop]
            omega
          · refine Bounds.insertPair_increasing t.wellFormed.increasing (by omega) hlo' hhi' ?_
            intro e
            exact hi' (Or.inr (Or.inr (hff.2 e))) }

/-- Adds ranges one after the other, each against the map with those before it. -/
def insertEach (t : IntervalMap α) (index : Nat) :
    List ((Nat × Nat) × α) → Except BuildError (IntervalMap α)
  | [] => .ok t
  | ((lo, hi), value) :: rest => do
    let t ← t.insertOne index lo hi value
    t.insertEach (index + 1) rest

/-- Adds the ranges of a bounds list, each with its own value, or none of them. -/
def insert (t : IntervalMap α) (bounds : List Nat) (values : List α) :
    Except BuildError (IntervalMap α) :=
  if bounds.length % 2 ≠ 0 then .error (.oddBounds bounds.length)
  else if values.length ≠ bounds.length / 2 then
    .error (.valueCount (bounds.length / 2) values.length)
  else t.spreadValues.insertEach 0 ((Bounds.toRanges bounds).zip values)

/-- Ranges are never taken out again. -/
def remove (_ : IntervalMap α) (_ : Nat) : Except BuildError (IntervalMap α) :=
  .error .removalUnsupported

end IntervalMap

end Lettering
