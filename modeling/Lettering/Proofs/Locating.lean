import Mathlib.Algebra.Group.Nat.Defs
import Lettering.Proofs.Answering

/-!
# Where a key stands among the bounds

The bisection of a bounds list is defined on windows inside the list, so that it never reads past it.
Here its loop is written as it runs, round by round, with every bound read where it may be missing and
every difference taken where it may be negative. It comes to the same.

* `round?`, `rounds?`, `search?`: one round, a limited number of rounds, and the whole search.
  There is no result where something is read outside the list, or where the rounds do not suffice.
* `round?_cases`: in a window inside the list a round gives the answer of the bisection, or a window
  inside the list that is half as wide and has the same answer. `rounds?_eq` is the run.
* `Rank.eq_countP`, `odd_iff_inside`: what a position says about the bounds and the ranges.
* `locate_ranks` puts these together.
-/

namespace Lettering.Bounds

/-! ## 1. Round by round -/

/-- What a round comes to: a narrower window, or the answer. -/
inductive Round where
  | narrowed (lo hi : Nat)
  | answered (position : Nat) (found : Bool)
  deriving DecidableEq

/-- One round in the window from `lo` to `hi`. -/
def round? (bounds : List Nat) (key lo hi : Nat) : Option Round :=
  if hi < lo then none
  else if 1 < hi - lo then
    let mid := lo + (hi - lo) / 2
    match bounds[mid]? with
    | none => none
    | some bound =>
      if key = bound then some (.answered mid true)
      else if key < bound then some (.narrowed lo mid)
      else some (.narrowed mid hi)
  else
    match bounds[lo]? with
    | none => none
    | some first =>
      if first < key then bounds[hi]?.map fun last => .answered hi (key == last)
      else some (.answered lo (key == first))

/-- At most `limit` rounds. -/
def rounds? (bounds : List Nat) (key : Nat) : Nat → Nat → Nat → Option (Nat × Bool)
  | 0, _, _ => none
  | limit + 1, lo, hi =>
    match round? bounds key lo hi with
    | none => none
    | some (.answered position found) => some (position, found)
    | some (.narrowed lo hi) => rounds? bounds key limit lo hi

/-- The search with at most `limit` rounds, the last bound looked at first. -/
def search? (bounds : List Nat) (key limit : Nat) : Option (Nat × Bool) :=
  if bounds.length = 0 then some (0, false)
  else
    match bounds[bounds.length - 1]? with
    | none => none
    | some last =>
      if last < key then some (bounds.length, false)
      else rounds? bounds key limit 0 (bounds.length - 1)

/-- **One round** in a window inside the list: it gives the answer of the bisection, or a window
inside the list that has the same answer and is at most half as wide, rounded up. -/
theorem round?_cases (bounds : List Nat) (key lo hi : Nat) (h : lo ≤ hi ∧ hi < bounds.length) :
    (round? bounds key lo hi = some (.answered (bisect bounds key lo hi h).1
        (bisect bounds key lo hi h).2)) ∨
      ∃ lo' hi', round? bounds key lo hi = some (.narrowed lo' hi') ∧
        2 * (hi' - lo') ≤ hi - lo + 1 ∧ 1 < hi - lo ∧
        ∃ h' : lo' ≤ hi' ∧ hi' < bounds.length,
          bisect bounds key lo' hi' h' = bisect bounds key lo hi h := by
  have hlo : lo < bounds.length := by omega
  unfold round?
  rw [if_neg (by omega), bisect]
  by_cases hwide : 1 < hi - lo
  · have hmid : lo + (hi - lo) / 2 < bounds.length := by omega
    simp only [if_pos hwide, dif_pos hwide, List.getElem?_eq_getElem hmid]
    by_cases hhit : key = bounds[lo + (hi - lo) / 2]
    · rw [if_pos hhit, if_pos hhit]
      exact .inl rfl
    · rw [if_neg hhit, if_neg hhit]
      by_cases hless : key < bounds[lo + (hi - lo) / 2]
      · rw [if_pos hless, if_pos hless]
        exact .inr ⟨_, _, rfl, by omega, hwide, ⟨by omega, hmid⟩, rfl⟩
      · rw [if_neg hless, if_neg hless]
        exact .inr ⟨_, _, rfl, by omega, hwide, ⟨by omega, h.2⟩, rfl⟩
  · simp only [if_neg hwide, dif_neg hwide, List.getElem?_eq_getElem hlo,
      List.getElem?_eq_getElem h.2]
    left
    split <;> rfl

/-- **A run of rounds** in a window inside the list gives the answer of the bisection, as soon as
there is one round more than the window can be halved. -/
theorem rounds?_eq (bounds : List Nat) (key limit lo hi : Nat)
    (h : lo ≤ hi ∧ hi < bounds.length) (hwidth : hi - lo ≤ 2 ^ limit) :
    rounds? bounds key (limit + 1) lo hi = some (bisect bounds key lo hi h) := by
  induction limit generalizing lo hi with
  | zero =>
    rcases round?_cases bounds key lo hi h with hround | ⟨lo', hi', -, -, hwide, -⟩
    · rw [rounds?, hround]
    · omega
  | succ limit ih =>
    rcases round?_cases bounds key lo hi h with hround | ⟨lo', hi', hround, hhalf, -, h', hsame⟩
    · rw [rounds?, hround]
    · rw [rounds?, hround, ← hsame]
      refine ih lo' hi' h' ?_
      rw [Nat.pow_succ] at hwidth
      omega

/-- **The search as it runs** is the bisection. -/
theorem search?_eq (bounds : List Nat) (key limit : Nat) (h : bounds.length ≤ 2 ^ limit + 1) :
    search? bounds key (limit + 1) = some (locate bounds key) := by
  unfold search? locate
  split
  · rfl
  · rename_i hsome
    have hlast : bounds.length - 1 < bounds.length := by omega
    rw [List.getElem?_eq_getElem hlast]
    dsimp only
    split
    · rfl
    · exact rounds?_eq bounds key limit 0 (bounds.length - 1) ⟨Nat.zero_le _, hlast⟩ (by omega)

/-! ## 2. What the position says -/

/-- A position is the number of bounds that are smaller than the key. -/
theorem Rank.eq_countP {bounds : List Nat} {key r : Nat} (h : Rank bounds key r) :
    r = bounds.countP (· < key) := by
  have hbelow : (bounds.take r).countP (· < key) = (bounds.take r).length := by
    rw [List.countP_eq_length]
    intro b hb
    obtain ⟨i, hi, rfl⟩ := List.mem_iff_getElem.1 hb
    rw [List.length_take] at hi
    rw [List.getElem_take]
    exact decide_eq_true (h.below i (by omega) (by omega))
  have habove : (bounds.drop r).countP (· < key) = 0 := by
    rw [List.countP_eq_zero]
    intro b hb hlt
    obtain ⟨i, hi, rfl⟩ := List.mem_iff_getElem.1 hb
    rw [List.length_drop] at hi
    rw [List.getElem_drop] at hlt
    exact Nat.not_lt.2 (h.above (r + i) (by omega) (Nat.le_add_right r i)) (of_decide_eq_true hlt)
  rw [← List.take_append_drop r bounds, List.countP_append, hbelow, habove,
    List.length_take_of_le h.le_length, Nat.add_zero]

/-- Where bounds come in pairs, a key that is no bound lies in a range exactly at an odd position. -/
theorem odd_iff_inside {bounds : List Nat} (hs : Increasing bounds) (hp : bounds.length % 2 = 0)
    {key : Nat} (h : (locate bounds key).2 = false) :
    (locate bounds key).1 % 2 = 1 ↔ ∃ r ∈ toRanges bounds, r.1 ≤ key ∧ key ≤ r.2 := by
  have hodd : contains bounds key = true ↔ (locate bounds key).1 % 2 = 1 := by
    rw [contains, h, Bool.false_or, beq_iff_eq]
  rw [← hodd]
  constructor
  · intro hin
    obtain ⟨i, lo, hi, hr, hlo, hhi⟩ := exists_range_of_contains hs hp hin
    exact ⟨(lo, hi), List.mem_of_getElem? hr, hlo, hhi⟩
  · rintro ⟨r, hm, hlo, hhi⟩
    obtain ⟨i, hr⟩ := List.mem_iff_getElem?.1 hm
    exact (locate_of_mem_range hs hr hlo hhi).1

/-! ## 3. Every key -/

/-- What is said of the search for a key in a bounds list. -/
structure Ranks (bounds : List Nat) (key : Nat) : Prop where
  /-- The loop comes to an answer without reading anything outside the list: after at most one
  round more than the list can be halved. -/
  ends {limit : Nat} : bounds.length ≤ 2 ^ limit + 1 →
    search? bounds key (limit + 1) = some (locate bounds key)
  /-- The position is the number of bounds that are smaller than the key, -/
  position : (locate bounds key).1 = bounds.countP (· < key)
  /-- and the flag says whether the key is a bound, which is then the one at the position. -/
  found : (locate bounds key).2 = true ↔ key ∈ bounds
  here : (locate bounds key).2 = true → bounds[(locate bounds key).1]? = some key
  /-- Where the bounds come in pairs, a key that is none of them lies inside a range exactly if its
  position is odd. -/
  inside : bounds.length % 2 = 0 → (locate bounds key).2 = false →
    ((locate bounds key).1 % 2 = 1 ↔ ∃ r ∈ toRanges bounds, r.1 ≤ key ∧ key ≤ r.2)

/-- **The search gives the rank of a key**, in every increasing list and for every key. -/
theorem locate_ranks {bounds : List Nat} (hs : Increasing bounds) (key : Nat) :
    Ranks bounds key where
  ends hlimit := search?_eq bounds key _ hlimit
  position := (locate_rank hs key).eq_countP
  found := locate_found_iff_mem hs key
  here := (locate_found hs key).1
  inside hp h := odd_iff_inside hs hp h

/-- Two ranges of increasing bounds. -/
def pairOfRanges : List Nat := [18, 35, 60, 120]

/-- Three rounds suffice for four bounds. Keys are looked for below and above all of them, at one of
them, inside a range and between the two. -/
theorem locate_ranks_pair :
    search? pairOfRanges 34 3 = some (locate pairOfRanges 34) ∧
      (locate pairOfRanges 0).1 = 0 ∧ (locate pairOfRanges 4294967295).1 = 4 ∧
      (locate pairOfRanges 60).2 = true ∧
      (locate pairOfRanges 34).1 % 2 = 1 ∧ ¬ (locate pairOfRanges 59).1 % 2 = 1 := by
  have hs : Increasing pairOfRanges := by decide
  have hnone (key : Nat) (h : key ∉ pairOfRanges) : (locate pairOfRanges key).2 = false :=
    Bool.eq_false_iff.2 fun hfound => h ((locate_ranks hs key).found.1 hfound)
  refine ⟨?_, ?_, ?_, ?_, ?_, ?_⟩
  · exact (locate_ranks hs 34).ends (by decide)
  · rw [(locate_ranks hs 0).position]
    decide
  · rw [(locate_ranks hs 4294967295).position]
    decide
  · exact (locate_ranks hs 60).found.2 (by decide)
  · exact ((locate_ranks hs 34).inside rfl (hnone 34 (by decide))).2 (by decide)
  · rw [(locate_ranks hs 59).inside rfl (hnone 59 (by decide))]
    decide

end Lettering.Bounds
