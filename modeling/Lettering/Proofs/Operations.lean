import Lettering.Proofs.Coherence

/-!
# What operations of a composer touch

An operation of a composer fails without a trace, and touches nothing but what it names.

* `load_ok`, `push_eq`, `pop_eq`, …: what each operation has done where it succeeds; whatever is said
  about an operation follows from these.
* `Fails`, `perform_of_fails`: an operation that fails gives back the composer it was asked.
* `Framed`: what is said about the operations of one composer; `operations_framed` proves it for
  every composer, whatever run led to it.
-/

namespace Lettering

/-- Whether a reference means a place where something is taken out of the operations list. -/
def Reference.isPlace : Reference → Bool
  | .index _ => true
  | _ => false

namespace Composer

section AnyEngine

variable [Regex.Engine] {ρ : Type}

section Outcomes

variable {c : Composer ρ}

/-! ## 1. Loaded bundles -/

theorem isSome_entry_iff {key : BundleKey} : (c.entry? key).isSome ↔ key ∈ c.loadedKeys := by
  constructor
  · intro h
    obtain ⟨l, hl⟩ := Option.isSome_iff_exists.1 h
    obtain ⟨hm, rfl⟩ := mem_of_entry hl
    exact List.mem_map_of_mem hm
  · intro hm
    obtain ⟨l, hl⟩ := exists_entry hm
    rw [hl]
    rfl

theorem loadedKey_of_mem {key : BundleKey} (h : key ∈ c.loadedKeys) : c.loadedKey key = .ok key := by
  obtain ⟨l, hl⟩ := exists_entry h
  rw [loadedKey, hl]
  exact congrArg Except.ok (mem_of_entry hl).2

theorem eq_of_loadedKey {key k : BundleKey} (h : c.loadedKey key = .ok k) : key = k := by
  unfold loadedKey at h
  split at h
  · rename_i hl
    cases h
    exact (mem_of_entry hl).2.symm
  · cases h

/-! ## 2. Names -/

theorem mem_repositoryNames_iff {name : String} :
    name ∈ c.repositoryNames ↔ (c.repositories.any fun r => r.1 == name) = true := by
  rw [repositoryNames, List.mem_map, List.any_eq_true]
  exact exists_congr fun r => and_congr_right' beq_iff_eq.symm

theorem bind_new {name : String} (h : name ∉ c.repositoryNames) (repository : ρ) :
    c.bind name repository = { c with repositories := c.repositories ++ [(name, repository)] } := by
  unfold Composer.bind
  rw [if_neg fun hany => h (mem_repositoryNames_iff.2 hany)]

theorem bind_again {name : String} (h : name ∈ c.repositoryNames) (repository : ρ) :
    c.bind name repository = { c with
      repositories := c.repositories.map fun r => if r.1 == name then (name, repository) else r
      loaded := c.loaded.filter fun l => l.key.repository != name
      ops := c.ops.filter fun k => k.repository != name } := by
  unfold Composer.bind
  rw [if_pos (mem_repositoryNames_iff.1 h)]

/-! ## 3. References in a row -/

/-- Given bundles are looked up and then run through, if there is one. -/
theorem runWith_of_ne_nil {refs : List Reference} (h : refs ≠ []) (text : String) :
    c.runWith text refs = match refs.mapM c.keyOf with
      | .error e => .error e
      | .ok keys => c.runKeys keys text := by
  unfold runWith
  split
  · exact absurd rfl h
  · rfl

/-! ## 4. The operations list -/

theorem push_eq {ref : Reference} {key : BundleKey} (h : c.keyOf ref = .ok key)
    {position : Option Nat} (hp : ∀ i ∈ position, i ≤ c.ops.length) :
    c.push ref position =
      (.ok (), { c with ops := c.ops.insertIdx (position.getD c.ops.length) key }) := by
  unfold push
  rw [h]
  cases position with
  | none => simp [List.insertIdx_length_self]
  | some i =>
    have hi : ¬ c.ops.length < i := Nat.not_lt.2 (hp i rfl)
    simp [hi]

theorem pop_place {i : Nat} (h : i < c.ops.length) :
    c.pop (.index i) = (.ok c.ops[i], { c with ops := c.ops.eraseIdx i }) := by
  have hne : c.ops.isEmpty = false := by
    rw [List.isEmpty_eq_false_iff]
    intro hnil
    rw [hnil] at h
    exact Nat.not_lt_zero i h
  simp [pop, placeOf, hne, h]

/-- What was put in at a place is taken out there, and the composer is as before. -/
theorem pop_push {ref : Reference} {key : BundleKey} (h : c.keyOf ref = .ok key)
    {position : Option Nat} (hp : ∀ i ∈ position, i ≤ c.ops.length) :
    (c.push ref position).2.pop (.index (position.getD c.ops.length)) = (.ok key, c) := by
  have hi : position.getD c.ops.length ≤ c.ops.length := by
    cases position with
    | none => exact Nat.le_refl _
    | some i => exact hp i rfl
  rw [push_eq h hp]
  generalize position.getD c.ops.length = i at hi
  have hlt : i < (c.ops.insertIdx i key).length := by
    rw [List.length_insertIdx_of_le_length hi]
    omega
  rw [pop_place (c := { c with ops := c.ops.insertIdx i key }) hlt]
  simp only [List.getElem_insertIdx_self, List.eraseIdx_insertIdx_self]

section Bundles

variable {ref : Reference} (hplace : ref.isPlace = false)
include hplace

theorem placeOf_eq :
    c.placeOf ref = match c.keyOf ref with
      | .error e => .error e
      | .ok key =>
        match c.ops.findIdx? fun k => k = key with
        | some i => .ok i
        | none => .error (.notInOrder key.display) := by
  cases ref with
  | index i => cases hplace
  | name | key => rfl

theorem pop_of_error {e : ComposerError} (href : c.keyOf ref = .error e) :
    ∃ e', c.pop ref = (.error e', c) := by
  unfold pop
  split
  · exact ⟨_, rfl⟩
  · rw [placeOf_eq hplace, href]
    exact ⟨_, rfl⟩

theorem pop_of_not_mem {key : BundleKey} (href : c.keyOf ref = .ok key) (hm : key ∉ c.ops) :
    ∃ e, c.pop ref = (.error e, c) := by
  have hnone : c.ops.findIdx? (fun k => k = key) = none := by
    rw [List.findIdx?_eq_none_iff]
    intro k hk
    exact decide_eq_false fun e => hm (e ▸ hk)
  unfold pop
  split
  · exact ⟨_, rfl⟩
  · rw [placeOf_eq hplace, href]
    simp only [hnone]
    exact ⟨_, rfl⟩

/-- Where a key stands in the operations list for the first time, taking out the bundle takes it
out there. -/
theorem pop_eq {key : BundleKey} (href : c.keyOf ref = .ok key) {before after : List BundleKey}
    (hops : c.ops = before ++ key :: after) (hfirst : key ∉ before) :
    c.pop ref = (.ok key, { c with ops := before ++ after }) := by
  have hfound : c.ops.findIdx? (fun k => k = key) = some before.length := by
    have hnone : before.findIdx? (fun k => k = key) = none := by
      rw [List.findIdx?_eq_none_iff]
      intro k hk
      exact decide_eq_false fun e => hfirst (e ▸ hk)
    rw [hops, List.findIdx?_append, hnone]
    simp [List.findIdx?_cons]
  have hat : c.ops[before.length]? = some key := by
    rw [hops]
    simp
  have herase : c.ops.eraseIdx before.length = before ++ after := by
    rw [hops, List.eraseIdx_append_of_length_le (Nat.le_refl _)]
    simp
  have hne : c.ops.isEmpty = false := by
    rw [hops]
    simp
  simp only [pop, hne, placeOf_eq hplace, href, hfound, hat, herase]
  rfl

/-- Taking out a bundle takes out its key where it stands first, and fails where it does not stand
at all. -/
theorem pop_eq_ok_iff {key : BundleKey} {c' : Composer ρ} :
    c.pop ref = (.ok key, c') ↔ c.keyOf ref = .ok key ∧ ∃ before after,
      c.ops = before ++ key :: after ∧ key ∉ before ∧ c' = { c with ops := before ++ after } := by
  constructor
  · intro h
    cases href : c.keyOf ref with
    | error e =>
      obtain ⟨e', he⟩ := pop_of_error hplace href
      rw [he] at h
      cases h
    | ok k =>
      by_cases hm : k ∈ c.ops
      · obtain ⟨before, after, hops, hfirst⟩ := List.eq_append_cons_of_mem hm
        rw [pop_eq hplace href hops hfirst] at h
        cases h
        exact ⟨rfl, before, after, hops, hfirst, rfl⟩
      · obtain ⟨e, he⟩ := pop_of_not_mem hplace href hm
        rw [he] at h
        cases h
  · rintro ⟨href, before, after, hops, hfirst, rfl⟩
    exact pop_eq hplace href hops hfirst

end Bundles

end Outcomes

variable [Repository ρ] {c c' : Composer ρ}

/-! ## 5. Loading -/

/-- **What a successful load has done**: its key is the name asked for in the repository found for
it, and the entry was loaded before or is the last one now. -/
theorem load_ok {name : String} {alternate : UInt64} {key : BundleKey}
    (h : c.load name alternate = (.ok key, c')) :
    ∃ repository, c.repositoryFor name = .ok (key.repository, repository) ∧
      key.bundle = (splitName name).2 ∧ key.alternate = alternate ∧
      (key ∈ c.loadedKeys ∧ c' = c ∨
        key ∉ c.loadedKeys ∧ ∃ l, buildEntry c.flatten repository key = .ok l ∧ l.key = key ∧
          c' = { c with loaded := c.loaded ++ [l] }) := by
  unfold load at h
  split at h
  · cases h
  · rename_i repositoryName repository hr
    dsimp only at h
    split at h
    · rename_i hcached
      cases h
      exact ⟨repository, hr, rfl, rfl, .inl ⟨isSome_entry_iff.1 hcached, rfl⟩⟩
    · rename_i hfree
      split at h
      · cases h
      · rename_i l hl
        cases h
        refine ⟨repository, hr, rfl, rfl, .inr ⟨?_, l, hl, (buildEntry_ok hl).1, rfl⟩⟩
        exact fun hm => hfree (isSome_entry_iff.2 hm)

theorem mem_of_load {name : String} {alternate : UInt64} {key : BundleKey}
    (h : c.load name alternate = (.ok key, c')) : key ∈ c'.loadedKeys := by
  obtain ⟨-, -, -, -, ⟨hm, rfl⟩ | ⟨-, l, -, rfl, rfl⟩⟩ := load_ok h
  · exact hm
  · exact List.mem_map_of_mem (List.mem_append_right _ List.mem_cons_self)

/-- What was loaded is served from the loaded bundles when it is asked for again. -/
theorem load_again {name : String} {alternate : UInt64} {key : BundleKey}
    (h : c.load name alternate = (.ok key, c')) : c'.load name alternate = (.ok key, c') := by
  have hm := isSome_entry_iff.2 (mem_of_load h)
  obtain ⟨repository, hr, hbundle, halternate, hcases⟩ := load_ok h
  have hr' : c'.repositoryFor name = .ok (key.repository, repository) := by
    rcases hcases with ⟨-, rfl⟩ | ⟨-, l, -, -, rfl⟩
    · exact hr
    · exact hr
  have hkey : (⟨key.repository, (splitName name).2, alternate⟩ : BundleKey) = key := by
    rw [← hbundle, ← halternate]
  simp only [load, hr', hkey, hm]
  rfl

/-! ## 6. Failures -/

/-- An operation of a composer gives an error. The others never do. -/
inductive Fails (c : Composer ρ) : Operation ρ → ComposerError → Prop
  | load {name alternate e} : (c.load name alternate).1 = .error e →
      Fails c (.load name alternate) e
  | setOrder {refs e} : (c.setOrder refs).1 = .error e → Fails c (.setOrder refs) e
  | push {ref position e} : (c.push ref position).1 = .error e → Fails c (.push ref position) e
  | pop {ref e} : (c.pop ref).1 = .error e → Fails c (.pop ref) e

/-- **An operation that fails changes nothing.** -/
theorem perform_of_fails {operation : Operation ρ} {e : ComposerError}
    (h : Fails c operation e) : c.perform operation = c := by
  cases h with
  | load h =>
    revert h
    unfold perform load
    dsimp only
    split
    · exact fun _ => rfl
    · split
      · exact fun h => nomatch h
      · split
        · exact fun _ => rfl
        · exact fun h => nomatch h
  | setOrder h =>
    revert h
    unfold perform setOrder
    dsimp only
    split
    · exact fun _ => rfl
    · exact fun h => nomatch h
  | push h =>
    revert h
    unfold perform push
    dsimp only
    split
    · exact fun _ => rfl
    · split
      · exact fun h => nomatch h
      · split
        · exact fun _ => rfl
        · exact fun h => nomatch h
  | pop h =>
    revert h
    unfold perform pop
    dsimp only
    split
    · exact fun _ => rfl
    · split
      · exact fun _ => rfl
      · split
        · exact fun h => nomatch h
        · exact fun _ => rfl

/-- A name keeps the repository it was found in when others are bound behind it. -/
theorem repositoryFor_append {name : String} {found : String × ρ}
    (h : c.repositoryFor name = .ok found) (added : List (String × ρ)) :
    ({ c with repositories := c.repositories ++ added } : Composer ρ).repositoryFor name =
      .ok found := by
  have hfind {p : String × ρ → Bool} {r : String × ρ} (hr : c.repositories.find? p = some r) :
      (c.repositories ++ added).find? p = some r := by
    rw [List.find?_append, hr, Option.some_or]
  unfold repositoryFor at h ⊢
  split at h
  · split at h
    · cases h
    · rename_i hr
      simp only [hfind hr]
      exact h
  · split at h
    · cases h
    · rename_i hr
      simp only [hfind hr]
      exact h

/-! ## 7. All operations -/

/-- What the operations of a composer touch. -/
structure Framed (c : Composer ρ) : Prop where
  /-- An operation that fails changes nothing. -/
  atomic {operation e} : Fails c operation e → c.perform operation = c
  /-- Loading adds one entry behind the others, or nothing if its key was loaded before; done again
  it gives the same key and changes nothing. -/
  loading {name alternate key c'} : c.load name alternate = (.ok key, c') →
    (key ∈ c.loadedKeys ∧ c' = c ∨
      key ∉ c.loadedKeys ∧ ∃ l, l.key = key ∧ c' = { c with loaded := c.loaded ++ [l] }) ∧
    c'.load name alternate = (.ok key, c')
  /-- Binding a new name changes neither list, and what was found before is found where it was. -/
  bindingNew {name} (repository : ρ) : name ∉ c.repositoryNames →
    (c.bind name repository).loaded = c.loaded ∧ (c.bind name repository).ops = c.ops ∧
      ∀ q found, c.repositoryFor q = .ok found →
        (c.bind name repository).repositoryFor q = .ok found
  /-- Binding a name again drops precisely what belongs to it. -/
  bindingAgain {name} (repository : ρ) : name ∈ c.repositoryNames →
    (c.bind name repository).loaded = c.loaded.filter (·.key.repository ≠ name) ∧
      (c.bind name repository).ops = c.ops.filter (·.repository ≠ name)
  /-- Forgetting a key drops precisely its entries. -/
  forgetting (key : BundleKey) :
    (c.forget key).2 = { c with
      loaded := c.loaded.filter (·.key ≠ key)
      ops := c.ops.filter (· ≠ key) }
  /-- Putting a bundle in at a position succeeds, and taking it out there undoes it. -/
  pushing {ref key position} : c.keyOf ref = .ok key → (∀ i ∈ position, i ≤ c.ops.length) →
    (c.push ref position).1 = .ok () ∧
      (c.push ref position).2.pop (.index (position.getD c.ops.length)) = (.ok key, c)
  /-- Taking out a bundle takes out its key where it stands first, and nothing else. -/
  popping {ref key c'} : ref.isPlace = false → (c.pop ref = (.ok key, c') ↔
    c.keyOf ref = .ok key ∧ ∃ before after, c.ops = before ++ key :: after ∧ key ∉ before ∧
      c' = { c with ops := before ++ after })

/-- **Operations of a composer fail without a trace and touch only what they name**, in every
composer and so after every run of operations. -/
theorem operations_framed (c : Composer ρ) : Framed c where
  atomic := perform_of_fails
  loading h := by
    obtain ⟨repository, -, -, -, hcases⟩ := load_ok h
    refine ⟨?_, load_again h⟩
    rcases hcases with hcached | ⟨hfree, l, -, hkey, hadded⟩
    · exact .inl hcached
    · exact .inr ⟨hfree, l, hkey, hadded⟩
  bindingNew repository h := by
    rw [bind_new h]
    exact ⟨rfl, rfl, fun q found hfound => repositoryFor_append hfound _⟩
  bindingAgain repository h := by
    have hkeep (r name : String) : (r != name) = decide (r ≠ name) := by
      rw [Bool.eq_iff_iff, bne_iff_ne, decide_eq_true_iff]
    rw [bind_again h]
    simp only [hkeep, and_self]
  forgetting key := rfl
  pushing href hposition := ⟨congrArg Prod.fst (push_eq href hposition), pop_push href hposition⟩
  popping hplace := pop_eq_ok_iff hplace

end AnyEngine

/-- A composer with one bundle in its operations list: a place beyond the list is refused, what is put
in behind the bundle is taken out there, the bundle leaves the list by its key, and binding its
repository's name again drops it. -/
theorem operations_framed_rebound :
    Framed rebound ∧ rebound.perform (.push (.name "leet") (some 9)) = rebound ∧
      (rebound.push (.name "leet") (some 1)).2.pop (.index 1) = (.ok leetKey, rebound) ∧
      rebound.pop (.key leetKey) = (.ok leetKey, { rebound with ops := [] }) ∧
      (rebound.bind "main" .empty).loaded = [] := by
  have hframed := operations_framed rebound
  have hops : rebound.ops = [leetKey] := by rw [rebound_eq]
  have hname : rebound.keyOf (.name "leet") = .ok leetKey := by
    rw [rebound_eq]
    decide +kernel
  have hkey : rebound.keyOf (.key leetKey) = .ok leetKey := by
    rw [rebound_eq]
    decide +kernel
  have hfull : (rebound.push (.name "leet") (some 9)).1 = .error (.indexOutOfRange 9 1) := by
    rw [rebound_eq]
    decide +kernel
  refine ⟨hframed, hframed.atomic (.push hfull), ?_, ?_, ?_⟩
  · refine (hframed.pushing hname fun i hi => ?_).2
    rw [hops]
    exact Nat.le_of_eq (Option.some.inj hi).symm
  · exact (hframed.popping rfl).2 ⟨hkey, [], [], hops, List.not_mem_nil, rfl⟩
  · have hbound : "main" ∈ rebound.repositoryNames := by
      have hnames : rebound.repositoryNames = ["main"] := by
        rw [rebound_eq]
        rfl
      exact hnames ▸ List.mem_cons_self
    rw [(hframed.bindingAgain .empty hbound).1, rebound_eq]
    decide +kernel

end Composer

end Lettering
