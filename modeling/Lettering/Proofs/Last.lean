import Lettering.Dictionary

/-!
# The last one counts

Wherever rules overlap, the one that comes last decides. `lastAnswer?` is that choice over a list of
members of which each may answer or not; this file gives its equations and reads a row of writes
into a dictionary through it.

* `lastAnswer?_cons`, `lastAnswer?_append`: what comes behind outranks what stands before.
* `Dictionary.find?_insertMany`: after a row of writes a key holds the last text written to it, and
  what it held before where none was.
* `getElem?_foldl_insert`: the entries of one map written over another.
-/

namespace Lettering

variable {α β : Type}

/-! ## 1. The last answer -/

/-- The answer of the last member that gives one. -/
def lastAnswer? (f : α → Option β) (xs : List α) : Option β := xs.reverse.findSome? f

@[simp] theorem lastAnswer?_nil (f : α → Option β) : lastAnswer? f [] = none := rfl

theorem lastAnswer?_append (f : α → Option β) (xs ys : List α) :
    lastAnswer? f (xs ++ ys) = (lastAnswer? f ys).or (lastAnswer? f xs) := by
  rw [lastAnswer?, List.reverse_append, List.findSome?_append]
  rfl

theorem lastAnswer?_singleton (f : α → Option β) (x : α) : lastAnswer? f [x] = f x := by
  rw [lastAnswer?, List.reverse_singleton, List.findSome?_singleton]

theorem lastAnswer?_cons (f : α → Option β) (x : α) (xs : List α) :
    lastAnswer? f (x :: xs) = (lastAnswer? f xs).or (f x) := by
  rw [← List.singleton_append, lastAnswer?_append, lastAnswer?_singleton]

theorem lastAnswer?_concat (f : α → Option β) (xs : List α) (x : α) :
    lastAnswer? f (xs ++ [x]) = (f x).or (lastAnswer? f xs) := by
  rw [lastAnswer?_append, lastAnswer?_singleton]

/-- No member answers exactly when there is no last answer. -/
theorem lastAnswer?_eq_none_iff {f : α → Option β} {xs : List α} :
    lastAnswer? f xs = none ↔ ∀ x ∈ xs, f x = none := by
  rw [lastAnswer?, List.findSome?_eq_none_iff]
  exact forall_congr' fun x => by rw [List.mem_reverse]

/-- The last answer is the answer of a member. -/
theorem exists_of_lastAnswer?_eq_some {f : α → Option β} {xs : List α} {y : β}
    (h : lastAnswer? f xs = some y) : ∃ x ∈ xs, f x = some y := by
  obtain ⟨x, hx, hy⟩ := List.exists_of_findSome?_eq_some h
  exact ⟨x, List.mem_reverse.1 hx, hy⟩

/-- **The last answer is that of a member behind which none answers.** -/
theorem lastAnswer?_eq_some_iff {f : α → Option β} {xs : List α} {y : β} :
    lastAnswer? f xs = some y ↔ ∃ before x behind, xs = before ++ x :: behind ∧ f x = some y ∧
      ∀ z ∈ behind, f z = none := by
  rw [lastAnswer?, List.findSome?_eq_some_iff]
  constructor
  · rintro ⟨behind, x, before, hxs, hx, hbehind⟩
    refine ⟨before.reverse, x, behind.reverse, ?_, hx,
      fun z hz => hbehind z (List.mem_reverse.1 hz)⟩
    rw [← List.reverse_reverse xs, hxs]
    simp
  · rintro ⟨before, x, behind, rfl, hx, hbehind⟩
    exact ⟨behind.reverse, x, before.reverse, by simp, hx,
      fun z hz => hbehind z (List.mem_reverse.1 hz)⟩

/-- The last member with a property. -/
theorem lastAnswer?_guard (p : α → Bool) (xs : List α) :
    lastAnswer? (Option.guard p) xs = xs.reverse.find? p :=
  List.find?_eq_findSome?_guard.symm

theorem lastAnswer?_map {γ : Type} (f : α → Option β) (g : β → γ) (xs : List α) :
    (lastAnswer? f xs).map g = lastAnswer? (fun x => (f x).map g) xs :=
  List.map_findSome? ..

/-! ## 2. Writes into a dictionary -/

namespace Dictionary

/-- What an entry writes to a key, if that is its own. -/
def writeTo? (key : Key) (entry : Key × String) : Option String :=
  if entry.1 = key then some entry.2 else none

theorem writeTo?_eq_some_iff {key : Key} {entry : Key × String} {value : String} :
    writeTo? key entry = some value ↔ entry = (key, value) := by
  unfold writeTo?
  rw [Option.ite_none_right_eq_some, Option.some.injEq, Prod.ext_iff]

theorem writeTo?_eq_none_iff {key : Key} {entry : Key × String} :
    writeTo? key entry = none ↔ entry.1 ≠ key := by
  simp [writeTo?]

theorem insertMany_cons (d : Dictionary) (entry : Key × String) (entries : List (Key × String)) :
    d.insertMany (entry :: entries) = (d.insert entry.1 entry.2).insertMany entries := rfl

/-- One write: its own key holds the new text and every other key what it held. -/
theorem find?_insert (d : Dictionary) (key other : Key) (value : String) :
    (d.insert key value).find? other = (writeTo? other (key, value)).or (d.find? other) := by
  unfold writeTo?
  split
  · rename_i h
    subst h
    exact find?_insert_self d _ value
  · rename_i h
    exact find?_insert_of_ne d (fun e => h e.symm) value

/-- **A row of writes leaves at each key the last text written to it**, and at any other key what
was there. -/
theorem find?_insertMany (d : Dictionary) (entries : List (Key × String)) (key : Key) :
    (d.insertMany entries).find? key =
      (lastAnswer? (writeTo? key) entries).or (d.find? key) := by
  induction entries generalizing d with
  | nil => rfl
  | cons entry entries ih =>
    rw [insertMany_cons, ih, find?_insert, lastAnswer?_cons, Option.or_assoc]

end Dictionary

/-! ## 3. Maps written over others -/

/-- Under each key there is the entry of the map that is written, or else what was there. -/
theorem getElem?_foldl_insert {κ ν : Type} [Ord κ] [Std.TransOrd κ] [Std.LawfulEqOrd κ] [BEq κ]
    [LawfulBEq κ] (entries target : Std.ExtTreeMap κ ν) (key : κ) :
    (entries.toList.foldl (fun acc e => acc.insert e.1 e.2) target)[key]? =
      (entries[key]?).or target[key]? := by
  rw [← Std.ExtTreeMap.insertMany_list_eq_foldl]
  cases hentry : entries[key]? with
  | some value =>
    have hm : (key, value) ∈ entries.toList :=
      Std.ExtTreeMap.mem_toList_iff_getElem?_eq_some.2 hentry
    exact Std.ExtTreeMap.getElem?_insertMany_list_of_mem Std.ReflCmp.compare_self
      Std.ExtTreeMap.distinct_keys_toList hm
  | none =>
    have hfree : (entries.toList.map Prod.fst).contains key = false := by
      rw [Std.ExtTreeMap.map_fst_toList_eq_keys, Std.ExtTreeMap.contains_keys,
        Std.ExtTreeMap.contains_eq_isSome_getElem?, hentry]
      rfl
    rw [Std.ExtTreeMap.getElem?_insertMany_list_of_contains_eq_false hfree, Option.none_or]

end Lettering
