import Mathlib.Data.List.Nodup
import Lettering.Composer.Basic
import Lettering.Proofs.Results
import Lettering.Regex.Machine
import Lettering.Repository.RuleStore

/-!
# Composers stay coherent

The states that a composer reaches from its repositories by any run of its operations, and what
holds in all of them.

* `Operation`, `perform`: one operation, successful or not, as a step from composer to composer;
  `Reachable`: the composers that a run of steps comes to.
* `Coherent`: names and loaded keys are distinct, the operations list holds loaded keys only, and
  every loaded bundle is what the repository bound under its name builds now.
* One lemma for each operation says that it keeps this; `Coherent.perform` and
  `Reachable.coherent` put them together.
* `reachable_coherent` adds what follows for texts: no run of the operations list misses a bundle,
  and a loaded key runs a text the same way wherever it is built from the same layers.
-/

namespace Lettering

namespace Composer

section AnyEngine

variable [Regex.Engine] {ρ : Type}

/-! ## 1. What references mean -/

section References

variable {c : Composer ρ}

theorem mem_of_entry {key : BundleKey} {l : Loaded} (h : c.entry? key = some l) :
    l ∈ c.loaded ∧ l.key = key := by
  have hkey := List.find?_some h
  exact ⟨List.mem_of_find?_eq_some h, of_decide_eq_true hkey⟩

theorem exists_entry {key : BundleKey} (h : key ∈ c.loadedKeys) :
    ∃ l, c.entry? key = some l := by
  obtain ⟨l, hl, rfl⟩ := List.mem_map.1 h
  refine Option.isSome_iff_exists.1 (List.find?_isSome.2 ⟨l, hl, ?_⟩)
  exact decide_eq_true rfl

theorem not_mem_of_no_entry {key : BundleKey} (h : (c.entry? key).isSome = false) :
    key ∉ c.loadedKeys := by
  intro hm
  obtain ⟨l, hl⟩ := exists_entry hm
  rw [hl] at h
  cases h

theorem mem_of_loadedKey {key k : BundleKey} (h : c.loadedKey k = .ok key) :
    key ∈ c.loadedKeys := by
  unfold loadedKey at h
  split at h
  · rename_i l hl
    cases h
    exact List.mem_map_of_mem (mem_of_entry hl).1
  · cases h

/-- A reference means a loaded key or nothing. -/
theorem mem_of_keyOf {ref : Reference} {key : BundleKey} (h : c.keyOf ref = .ok key) :
    key ∈ c.loadedKeys := by
  unfold keyOf at h
  split at h
  · split at h
    · rename_i l hl
      cases h
      exact List.mem_map_of_mem (List.mem_of_getElem? hl)
    · cases h
  · exact mem_of_loadedKey h
  · split at h
    · exact mem_of_loadedKey h
    · split at h
      · rename_i l hl
        cases h
        exact List.mem_map_of_mem (List.mem_of_find?_eq_some hl)
      · cases h

/-! ## 2. Texts -/

theorem stage_of_entry {key : BundleKey} {l : Loaded} (h : c.entry? key = some l) :
    c.stage key = .ok l.bundle := by
  unfold stage bundle?
  rw [h]
  rfl

/-- Where every key is loaded, a text fails only in a stage. -/
theorem runKeys_ne_notLoaded {keys : List BundleKey} (h : ∀ key ∈ keys, key ∈ c.loadedKeys)
    (text key : String) : c.runKeys keys text ≠ .error (.notLoaded key) := by
  obtain ⟨bundles, hb⟩ := exists_mapM_ok (f := c.stage) fun key hk => by
    obtain ⟨l, hl⟩ := exists_entry (h key hk)
    exact ⟨l.bundle, stage_of_entry hl⟩
  unfold runKeys chain
  rw [hb]
  dsimp only [Except.map]
  split <;> nofun

theorem runWith_of_mapM_ok {refs : List Reference} {keys : List BundleKey} (hne : refs ≠ [])
    (h : refs.mapM c.keyOf = .ok keys) (text : String) :
    c.runWith text refs = c.runKeys keys text := by
  unfold runWith
  split
  · exact absurd rfl hne
  · rw [h]

/-- A loaded key runs a text through its bundle. -/
theorem runWith_key {key : BundleKey} {l : Loaded} (h : c.entry? key = some l) (text : String) :
    c.runWith text [.key key] =
      match (Chain.mk [l.bundle]).run text with
      | .ok out => .ok out
      | .error e => .error (.stage e) := by
  have hkey : c.keyOf (.key key) = .ok key := by
    rw [keyOf, loadedKey, h]
    exact congrArg Except.ok (mem_of_entry h).2
  have hrefs : [Reference.key key].mapM c.keyOf = .ok [key] := by
    rw [List.mapM_cons, hkey]
    rfl
  have hstages : [key].mapM c.stage = .ok [l.bundle] := by
    rw [List.mapM_cons, stage_of_entry h]
    rfl
  rw [runWith_of_mapM_ok (List.cons_ne_nil _ _) hrefs, runKeys, chain, hstages]
  rfl

end References

variable [Repository ρ]

/-! ## 3. Runs -/

/-- The operations that change a composer. Forgetting all bundles is the same as clearing. -/
inductive Operation (ρ : Type) where
  | bind (name : String) (repository : ρ)
  | load (name : String) (alternate : UInt64)
  | setOrder (refs : List Reference)
  | push (ref : Reference) (position : Option Nat)
  | pop (ref : Reference)
  | forget (key : BundleKey)
  | clear

/-- The composer after an operation, whether it succeeds or not. -/
def perform (c : Composer ρ) : Operation ρ → Composer ρ
  | .bind name repository => c.bind name repository
  | .load name alternate => (c.load name alternate).2
  | .setOrder refs => (c.setOrder refs).2
  | .push ref position => (c.push ref position).2
  | .pop ref => (c.pop ref).2
  | .forget key => (c.forget key).2
  | .clear => c.clear

/-- The composers that any run of operations reaches from any repositories. -/
inductive Reachable : Composer ρ → Prop
  | start (flatten : Bool) (repositories : List (String × ρ)) :
      Reachable (ofRepositories flatten repositories)
  | step {c : Composer ρ} (operation : Operation ρ) : Reachable c → Reachable (c.perform operation)

/-! ## 4. Coherence -/

/-- A loaded entry is what a repository gives for its key: its bundle is built from the layers of
the resolution, and its warnings are those of the resolution and then those of the bundle. -/
structure BuiltFrom (flatten : Bool) (repository : ρ) (l : Loaded) (resolution : Resolution) :
    Prop where
  resolved : Repository.resolve repository l.key.bundle = .ok resolution
  built : Bundle.build l.key.bundle resolution.layers ⟨l.key.alternate.toNat, flatten⟩ =
    .ok l.bundle
  warned : l.warnings = resolution.warnings ++ l.bundle.warnings

/-- What holds of a composer at any time. -/
structure Coherent (c : Composer ρ) : Prop where
  names : c.repositoryNames.Nodup
  keys : c.loadedKeys.Nodup
  ops : ∀ key ∈ c.ops, key ∈ c.loadedKeys
  entries : ∀ l ∈ c.loaded, ∃ repository resolution,
    (l.key.repository, repository) ∈ c.repositories ∧
      BuiltFrom c.flatten repository l resolution

variable {c c' : Composer ρ}

theorem mem_of_repositoryFor {name : String} {r : String × ρ}
    (h : c.repositoryFor name = .ok r) : r ∈ c.repositories := by
  unfold repositoryFor at h
  split at h
  · split at h
    · cases h
    · rename_i hf
      split at h
      · cases h
        exact List.mem_of_find?_eq_some hf
      · cases h
  · split at h
    · cases h
    · rename_i hf
      cases h
      exact List.mem_of_find?_eq_some hf

theorem buildEntry_ok {flatten : Bool} {repository : ρ} {key : BundleKey} {l : Loaded}
    (h : buildEntry flatten repository key = .ok l) :
    l.key = key ∧ ∃ resolution, BuiltFrom flatten repository l resolution := by
  unfold buildEntry at h
  split at h
  · cases h
  · rename_i resolution hr
    split at h
    · cases h
    · rename_i bundle hb
      cases h
      exact ⟨rfl, resolution, hr, hb, rfl⟩

theorem BuiltFrom.buildEntry_eq {flatten : Bool} {repository : ρ} {l : Loaded}
    {resolution : Resolution} (h : BuiltFrom flatten repository l resolution) :
    buildEntry flatten repository l.key = .ok l := by
  obtain ⟨key, bundle, warnings⟩ := l
  obtain rfl : warnings = resolution.warnings ++ bundle.warnings := h.warned
  unfold buildEntry
  rw [h.resolved]
  dsimp only
  rw [h.built]

/-- A name whose key was not loaded before is loaded as what its repository gives for it. -/
theorem BuiltFrom.load_eq {q : String} {repository : ρ} {l : Loaded} {resolution : Resolution}
    (h : BuiltFrom c.flatten repository l resolution)
    (hr : c.repositoryFor q = .ok (l.key.repository, repository))
    (hname : (splitName q).2 = l.key.bundle) (hfree : c.entry? l.key = none) :
    c.load q l.key.alternate = (.ok l.key, { c with loaded := c.loaded ++ [l] }) := by
  have hkey : (⟨l.key.repository, (splitName q).2, l.key.alternate⟩ : BundleKey) = l.key := by
    rw [hname]
  unfold load
  simp only [hr, hkey, hfree, h.buildEntry_eq]
  rfl

/-- A stored set without includes gives what is built of it alone. -/
theorem builtFrom_of_no_includes {flatten : Bool} {store : RuleStore} {l : Loaded} {set : RuleSet}
    (hget : store.get? l.key.bundle = some set) (hnone : set.includes = [])
    (hbuilt : Bundle.build l.key.bundle [set] ⟨l.key.alternate.toNat, flatten⟩ = .ok l.bundle)
    (hwarned : l.warnings = l.bundle.warnings) : BuiltFrom flatten store l ⟨[set], []⟩ where
  resolved := RuleStore.resolve_of_no_includes hget hnone
  built := hbuilt
  warned := hwarned

/-! ## 5. One operation -/

namespace Coherent

theorem empty (flatten : Bool) : Coherent (empty flatten : Composer ρ) where
  names := List.nodup_nil
  keys := List.nodup_nil
  ops _ h := nomatch h
  entries _ h := nomatch h

/-- A change of the operations list to loaded keys. -/
theorem withOps (h : Coherent c) {ops : List BundleKey}
    (hops : ∀ key ∈ ops, key ∈ c.loadedKeys) : Coherent { c with ops := ops } :=
  ⟨h.names, h.keys, hops, h.entries⟩

/-- A change of the repositories that leaves alone the ones that entries come from. -/
theorem withRepositories (h : Coherent c) {repositories : List (String × ρ)}
    (hnames : (repositories.map (·.1)).Nodup)
    (hkept : ∀ r ∈ c.repositories, r.1 ∈ c.loaded.map (·.key.repository) → r ∈ repositories) :
    Coherent { c with repositories := repositories } where
  names := hnames
  keys := h.keys
  ops := h.ops
  entries l hl := by
    obtain ⟨repository, resolution, hr, hb⟩ := h.entries l hl
    exact ⟨repository, resolution, hkept _ hr (List.mem_map_of_mem hl), hb⟩

/-- Whatever is dropped from the loaded bundles leaves the operations list too. -/
theorem filtered (h : Coherent c) (keep : BundleKey → Bool) :
    Coherent { c with loaded := c.loaded.filter fun l => keep l.key, ops := c.ops.filter keep } where
  names := h.names
  keys := h.keys.sublist (List.filter_sublist.map _)
  ops key hkey := by
    obtain ⟨hm, hk⟩ := List.mem_filter.1 hkey
    obtain ⟨l, hl, rfl⟩ := List.mem_map.1 (h.ops key hm)
    exact List.mem_map_of_mem (List.mem_filter.2 ⟨hl, hk⟩)
  entries l hl := h.entries l (List.mem_filter.1 hl).1

/-- Binding a name anew drops what was loaded under it, so no entry comes from the repository that
is replaced. -/
theorem bind (h : Coherent c) (name : String) (repository : ρ) :
    Coherent (c.bind name repository) := by
  unfold Composer.bind
  split
  · refine (h.filtered fun k => k.repository != name).withRepositories ?_ fun r hr hused => ?_
    · have hsame : (c.repositories.map fun r => if r.1 == name then (name, repository) else r).map
          (·.1) = c.repositoryNames := by
        rw [List.map_map]
        refine List.map_congr_left fun r _ => ?_
        by_cases hr : r.1 = name <;> simp [hr]
      rw [hsame]
      exact h.names
    · obtain ⟨l, hl, hname⟩ := List.mem_map.1 hused
      have hne : (l.key.repository != name) = true := (List.mem_filter.1 hl).2
      rw [hname] at hne
      refine List.mem_map.2 ⟨r, hr, if_neg ?_⟩
      simpa using hne
  · rename_i hfree
    refine h.withRepositories ?_ fun r hr _ => List.mem_append_left _ hr
    rw [List.map_append, List.nodup_append]
    refine ⟨h.names, List.nodup_singleton _, fun a ha b hb => ?_⟩
    obtain ⟨r, hr, rfl⟩ := List.mem_map.1 ha
    obtain rfl := List.mem_singleton.1 hb
    rintro rfl
    exact hfree (List.any_eq_true.2 ⟨r, hr, beq_self_eq_true _⟩)

theorem load (h : Coherent c) (name : String) (alternate : UInt64) :
    Coherent (c.load name alternate).2 := by
  unfold Composer.load
  split
  · exact h
  · rename_i repositoryName repository hr
    dsimp only
    split
    · exact h
    · rename_i hfree
      have hnew := not_mem_of_no_entry (Bool.not_eq_true _ ▸ hfree)
      split
      · exact h
      · rename_i l hl
        obtain ⟨hkey, resolution, hb⟩ := buildEntry_ok hl
        refine ⟨h.names, ?_, fun key hm => ?_, fun l' hl' => ?_⟩
        · -- the new key was not loaded before
          rw [loadedKeys, List.map_append, List.nodup_append]
          refine ⟨h.keys, List.nodup_singleton _, fun a ha b hb => ?_⟩
          obtain rfl := List.mem_singleton.1 hb
          rintro rfl
          dsimp only at ha
          rw [hkey] at ha
          exact hnew ha
        · rw [loadedKeys, List.map_append]
          exact List.mem_append_left _ (h.ops key hm)
        · rcases List.mem_append.1 hl' with hold | hlast
          · exact h.entries l' hold
          · obtain rfl := List.mem_singleton.1 hlast
            refine ⟨repository, resolution, ?_, hb⟩
            rw [hkey]
            exact mem_of_repositoryFor hr

theorem setOrder (h : Coherent c) (refs : List Reference) : Coherent (c.setOrder refs).2 := by
  unfold Composer.setOrder
  split
  · exact h
  · rename_i keys hkeys
    refine h.withOps fun key hm => ?_
    obtain ⟨ref, -, href⟩ := exists_of_mapM_ok hkeys hm
    exact mem_of_keyOf href

theorem push (h : Coherent c) (ref : Reference) (position : Option Nat) :
    Coherent (c.push ref position).2 := by
  unfold Composer.push
  split
  · exact h
  · rename_i key href
    have hloaded := mem_of_keyOf href
    split
    · refine h.withOps fun k hm => ?_
      rcases List.mem_append.1 hm with hold | hlast
      · exact h.ops k hold
      · rwa [List.mem_singleton.1 hlast]
    · split
      · exact h
      · rename_i i hi
        refine h.withOps fun k hm => ?_
        rcases (List.mem_insertIdx (Nat.le_of_not_lt hi)).1 hm with rfl | hold
        · exact hloaded
        · exact h.ops k hold

theorem pop (h : Coherent c) (ref : Reference) : Coherent (c.pop ref).2 := by
  unfold Composer.pop
  split
  · exact h
  · split
    · exact h
    · split
      · exact h.withOps fun k hm => h.ops k (List.mem_of_mem_eraseIdx hm)
      · exact h

theorem forget (h : Coherent c) (key : BundleKey) : Coherent (c.forget key).2 :=
  h.filtered fun k => k ≠ key

theorem clear (h : Coherent c) : Coherent c.clear where
  names := h.names
  keys := List.nodup_nil
  ops _ hm := nomatch hm
  entries _ hm := nomatch hm

/-- **Every operation keeps a composer coherent**, whether it succeeds or fails. -/
theorem perform (h : Coherent c) (operation : Operation ρ) : Coherent (c.perform operation) := by
  cases operation with
  | bind name repository => exact h.bind name repository
  | load name alternate => exact h.load name alternate
  | setOrder refs => exact h.setOrder refs
  | push ref position => exact h.push ref position
  | pop ref => exact h.pop ref
  | forget key => exact h.forget key
  | clear => exact h.clear

end Coherent

/-! ## 6. Runs of operations -/

namespace Reachable

/-- **Every composer that a run of operations reaches is coherent.** -/
theorem coherent (h : Reachable c) : Coherent c := by
  induction h with
  | start flatten repositories =>
    unfold ofRepositories
    have hempty : Coherent (empty flatten : Composer ρ) := .empty flatten
    generalize (empty flatten : Composer ρ) = c at hempty
    induction repositories generalizing c with
    | nil => exact hempty
    | cons r repositories ih => exact ih _ (hempty.bind r.1 r.2)
  | step operation _ ih => exact ih.perform operation

end Reachable

/-! ## 7. The same text through the same key -/

/-- In a coherent composer the entry of a key is built from the repository bound for it. -/
theorem Coherent.builtFrom (h : Coherent c) {key : BundleKey} {l : Loaded} {repository : ρ}
    (hl : c.entry? key = some l) (hr : (key.repository, repository) ∈ c.repositories) :
    ∃ resolution, BuiltFrom c.flatten repository l resolution := by
  obtain ⟨hm, rfl⟩ := mem_of_entry hl
  obtain ⟨repository', resolution, hr', hb⟩ := h.entries l hm
  cases List.inj_on_of_nodup_map h.names hr hr' rfl
  exact ⟨resolution, hb⟩

/-- Entries of one key that are built from the same layers have the same bundle. -/
theorem BuiltFrom.bundle_eq {flatten : Bool} {repository repository' : ρ} {l l' : Loaded}
    {resolution resolution' : Resolution} (h : BuiltFrom flatten repository l resolution)
    (h' : BuiltFrom flatten repository' l' resolution') (hkey : l.key = l'.key)
    (hlayers : (Repository.resolve repository l.key.bundle).map (·.layers) =
      (Repository.resolve repository' l.key.bundle).map (·.layers)) : l.bundle = l'.bundle := by
  have hr := h.resolved
  have hr' := h'.resolved
  have hb := h.built
  have hb' := h'.built
  rw [← hkey] at hr' hb'
  rw [hr, hr'] at hlayers
  have hsame : resolution.layers = resolution'.layers := Except.ok.inj hlayers
  rw [← hsame, hb] at hb'
  exact Except.ok.inj hb'

/-- **A composer stays coherent in every run of its operations.** So a text is never run into a
bundle that is not loaded, and a key that is loaded in two composers runs a text the same way in
both when shifts are written out in both or in neither and the repositories bound under its name
give the same layers. -/
theorem reachable_coherent {c : Composer ρ} (h : Reachable c) :
    Coherent c ∧ (∀ text key, c.run text ≠ .error (.notLoaded key)) ∧
      ∀ {c' : Composer ρ} {key : BundleKey} {repository repository' : ρ}, Reachable c' →
        c.flatten = c'.flatten → key ∈ c.loadedKeys → key ∈ c'.loadedKeys →
        (key.repository, repository) ∈ c.repositories →
        (key.repository, repository') ∈ c'.repositories →
        (Repository.resolve repository key.bundle).map (·.layers) =
          (Repository.resolve repository' key.bundle).map (·.layers) →
        ∀ text, c.runWith text [.key key] = c'.runWith text [.key key] := by
  refine ⟨h.coherent, runKeys_ne_notLoaded h.coherent.ops, ?_⟩
  intro c' key repository repository' h' hflatten hloaded hloaded' hbound hbound' hlayers text
  obtain ⟨l, hl⟩ := exists_entry hloaded
  obtain ⟨l', hl'⟩ := exists_entry hloaded'
  obtain ⟨resolution, hb⟩ := h.coherent.builtFrom hl hbound
  obtain ⟨resolution', hb'⟩ := h'.coherent.builtFrom hl' hbound'
  have hkey := (mem_of_entry hl).2
  rw [← hflatten] at hb'
  have hbundle := hb.bundle_eq hb' (hkey.trans (mem_of_entry hl').2.symm) (hkey ▸ hlayers)
  rw [runWith_key hl, runWith_key hl', hbundle]

end AnyEngine

/-- A store of two sets. -/
def twoSets : RuleStore :=
  .ofList [(RuleSet.new "leet").addChar "a" "4", (RuleSet.new "shout").addChar "h" "H"]

/-- A store of another set under the name of one of them. -/
def otherSet : RuleStore := .ofList [(RuleSet.new "leet").addChar "a" "@"]

/-- A composer that loads a set and then loads it again from a repository bound anew. -/
def rebound : Composer RuleStore :=
  ((((ofRepositories true [("main", otherSet)]).perform (.load "leet" 0)).perform
    (.bind "main" twoSets)).perform (.load "leet" 0)).perform (.push (.name "leet") none)

/-- A composer that loads the same set from the second of its repositories. -/
def direct : Composer RuleStore :=
  (ofRepositories true [("spare", .empty), ("main", twoSets)]).perform (.load "main:leet" 0)

/-- The key of the set in both. -/
def leetKey : BundleKey := ⟨"main", "leet", 0⟩

/-- What is loaded under the key when the set writes a text for `a`. -/
def leetLoaded (text : String) : Loaded :=
  ⟨leetKey, ⟨"leet", .empty, .ofList [(.codePoint 97, text)], [], []⟩, []⟩

theorem builtFrom_twoSets : BuiltFrom true twoSets (leetLoaded "4")
    ⟨[(RuleSet.new "leet").addChar "a" "4"], []⟩ :=
  builtFrom_of_no_includes (by decide +kernel) rfl (by decide +kernel) rfl

/-- The bundle that was loaded first has gone with its repository. -/
theorem rebound_eq : rebound = ⟨[("main", twoSets)], [leetLoaded "4"], [leetKey], true⟩ := by
  have hother : BuiltFrom true otherSet (leetLoaded "@")
      ⟨[(RuleSet.new "leet").addChar "a" "@"], []⟩ :=
    builtFrom_of_no_includes (by decide +kernel) rfl (by decide +kernel) rfl
  have hfirst : (ofRepositories true [("main", otherSet)]).perform (.load "leet" 0) =
      ⟨[("main", otherSet)], [leetLoaded "@"], [], true⟩ :=
    congrArg Prod.snd (hother.load_eq (c := ofRepositories true [("main", otherSet)])
      (q := "leet") (by decide +kernel) (by decide +kernel) (by decide +kernel))
  have hbound : (⟨[("main", otherSet)], [leetLoaded "@"], [], true⟩ : Composer RuleStore).perform
      (.bind "main" twoSets) = ⟨[("main", twoSets)], [], [], true⟩ := rfl
  have hagain : (⟨[("main", twoSets)], [], [], true⟩ : Composer RuleStore).perform
      (.load "leet" 0) = ⟨[("main", twoSets)], [leetLoaded "4"], [], true⟩ :=
    congrArg Prod.snd (builtFrom_twoSets.load_eq (c := ⟨[("main", twoSets)], [], [], true⟩)
      (q := "leet") (by decide +kernel) (by decide +kernel) (by decide +kernel))
  rw [rebound, hfirst, hbound, hagain]
  rfl

theorem direct_eq :
    direct = ⟨[("spare", .empty), ("main", twoSets)], [leetLoaded "4"], [], true⟩ :=
  congrArg Prod.snd (builtFrom_twoSets.load_eq
    (c := ofRepositories true [("spare", RuleStore.empty), ("main", twoSets)]) (q := "main:leet")
    (by decide +kernel) (by decide +kernel) (by decide +kernel))

/-- The set is loaded in both composers in different ways, and runs a text alike. -/
theorem reachable_coherent_rebound :
    Coherent rebound ∧ rebound.ops = [leetKey] ∧ rebound.run "aha" = .ok "4h4" ∧
      (∀ key, rebound.run "aha" ≠ .error (.notLoaded key)) ∧
      rebound.runWith "aha" [.key leetKey] = direct.runWith "aha" [.key leetKey] := by
  have hr : Reachable rebound := .step _ (.step _ (.step _ (.step _ (.start true _))))
  have hd : Reachable direct := .step _ (.start true _)
  have hloaded : leetKey ∈ rebound.loadedKeys := by
    rw [rebound_eq]
    exact List.mem_singleton_self _
  have hloaded' : leetKey ∈ direct.loadedKeys := by
    rw [direct_eq]
    exact List.mem_singleton_self _
  have hbound : (leetKey.repository, twoSets) ∈ rebound.repositories := by
    rw [rebound_eq]
    exact List.mem_singleton_self _
  have hbound' : (leetKey.repository, twoSets) ∈ direct.repositories := by
    rw [direct_eq]
    exact List.mem_cons_of_mem _ List.mem_cons_self
  have hflatten : rebound.flatten = direct.flatten := by rw [rebound_eq, direct_eq]
  obtain ⟨hcoherent, htext, hsame⟩ := reachable_coherent hr
  refine ⟨hcoherent, by rw [rebound_eq], ?_, htext "aha", ?_⟩
  · rw [rebound_eq]
    decide +kernel
  · exact hsame hd hflatten hloaded hloaded' hbound hbound' rfl "aha"

end Composer

end Lettering
