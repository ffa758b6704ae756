import Lettering.Proofs.Operations

/-!
# Names of loaded bundles

A name with a colon is asked for when a bundle is loaded, and read as a written key when the bundle
is referred to afterwards. The first takes the whole text behind the colon as the name of the rule
set; the second takes a number behind the last dot as the alternative.

* `EndsInNumber`: the names on which the two readings part; `readName_of_endsInNumber` and
  `readName_of_plain` say what a written key makes of a name.
* `Composer.Replaces`: a reference that does what another does, wherever it stands.
* `Composer.keyOf_loaded_name`: the name that a bundle was loaded by refers to it exactly if it does
  not end in a number, and `name_refers_elsewhere` shows a name that refers to another loaded bundle.
-/

namespace Lettering

/-! ## 1. What a written key makes of a name -/

namespace BundleKey

/-- A text has a number of 64 bits behind its last dot, and a name before it. -/
def EndsInNumber (text name : String) (n : UInt64) : Prop :=
  ∃ digits, text.toList = name.toList ++ alternateSeparator :: digits ∧
    alternateSeparator ∉ digits ∧ Text.readIndex digits = some n.toNat

theorem readIndex_lt {digits : List Char} {n : Nat} (h : Text.readIndex digits = some n) :
    n < UInt64.size := by
  obtain ⟨-, hn⟩ := Option.filter_eq_some_iff.1 h
  exact of_decide_eq_true hn

theorem EndsInNumber.split {text name : String} {n : UInt64} (h : EndsInNumber text name n) :
    ∃ digits, Text.splitLast alternateSeparator text.toList = some (name.toList, digits) ∧
      Text.readIndex digits = some n.toNat := by
  obtain ⟨digits, htext, hdot, hn⟩ := h
  exact ⟨digits, Text.splitLast_eq_some_iff.2 ⟨htext, hdot⟩, hn⟩

theorem readName_of_endsInNumber {text name : String} {n : UInt64} (h : EndsInNumber text name n) :
    readName text.toList = (name, n) := by
  obtain ⟨digits, hsplit, hn⟩ := h.split
  simp only [readName, hsplit, hn, String.ofList_toList, UInt64.ofNat_toNat]

/-- A name that does not end in a number is read as it is, for the first alternative. -/
theorem readName_of_plain {text : String} (h : ∀ name n, ¬ EndsInNumber text name n) :
    readName text.toList = (text, 0) := by
  unfold readName
  split
  · rename_i before after hsplit
    obtain ⟨htext, hdot⟩ := Text.splitLast_eq_some_iff.1 hsplit
    split
    · rename_i n hn
      have hsame : (UInt64.ofNat n).toNat = n := UInt64.toNat_ofNat_of_lt (readIndex_lt hn)
      refine absurd ⟨after, ?_, hdot, ?_⟩ (h (String.ofList before) (UInt64.ofNat n))
      · rw [htext, String.toList_ofList]
      · rw [hn, hsame]
    · rw [String.ofList_toList]
  · rw [String.ofList_toList]

/-- A name that ends in a number is longer than what stands before the number. -/
theorem EndsInNumber.ne {text name : String} {n : UInt64} (h : EndsInNumber text name n) :
    name ≠ text := by
  rintro rfl
  obtain ⟨digits, htext, -⟩ := h
  simpa using congrArg List.length htext

end BundleKey

/-! ## 2. References in place of others -/

namespace Composer

section AnyEngine

variable [Regex.Engine] {ρ : Type} {c : Composer ρ}

/-- A reference does what another does in every operation that takes references. -/
structure Replaces (c : Composer ρ) (ref other : Reference) : Prop where
  push (position : Option Nat) : c.push ref position = c.push other position
  pop : c.pop ref = c.pop other
  setOrder (before after : List Reference) :
    c.setOrder (before ++ ref :: after) = c.setOrder (before ++ other :: after)
  runWith (text : String) (before after : List Reference) :
    c.runWith text (before ++ ref :: after) = c.runWith text (before ++ other :: after)

/-- References to one bundle replace each other. -/
theorem replaces_of_keyOf_eq {ref other : Reference} (hplace : ref.isPlace = false)
    (hother : other.isPlace = false) (h : c.keyOf ref = c.keyOf other) : c.Replaces ref other := by
  have hmapM (before after : List Reference) :
      (before ++ ref :: after).mapM c.keyOf = (before ++ other :: after).mapM c.keyOf := by
    simp only [List.mapM_append, List.mapM_cons, h]
  refine ⟨fun position => ?_, ?_, fun before after => ?_, fun text before after => ?_⟩
  · rw [push, push, h]
  · simp only [pop, placeOf_eq hplace, placeOf_eq hother, h]
  · rw [setOrder, setOrder, hmapM]
  · have hne (r : Reference) : before ++ r :: after ≠ [] := by simp
    rw [runWith_of_ne_nil (hne ref), runWith_of_ne_nil (hne other), hmapM]

/-! ## 3. Loading and referring -/

variable [Repository ρ] {q : String} {k : BundleKey} {c' : Composer ρ}

/-- A name with a colon is looked for in the repository before the colon. -/
theorem load_named (hq : BundleKey.nameSeparator ∈ q.toList) {alternate : UInt64}
    (h : c.load q alternate = (.ok k, c')) :
    Text.splitFirst BundleKey.nameSeparator q.toList =
      some (k.repository.toList, k.bundle.toList) := by
  obtain ⟨before, after, hsplit⟩ := Text.exists_splitFirst hq
  obtain ⟨repository, hr, hbundle, -⟩ := load_ok h
  have hname : splitName q = (some (String.ofList before), String.ofList after) := by
    rw [splitName, hsplit]
  have hrepository : k.repository = String.ofList before := by
    rw [repositoryFor, hname] at hr
    dsimp only at hr
    split at hr
    · cases hr
    · rename_i r hfound
      split at hr
      · cases hr
        simpa using List.find?_some hfound
      · cases hr
  rw [hsplit, hbundle, hrepository, hname, String.toList_ofList, String.toList_ofList]

/-- The written key of a name that something was loaded by. -/
theorem ofString?_of_load (hq : BundleKey.nameSeparator ∈ q.toList) {alternate : UInt64}
    (h : c.load q alternate = (.ok k, c')) : BundleKey.ofString? q =
      some ⟨k.repository, (BundleKey.readName k.bundle.toList).1,
        (BundleKey.readName k.bundle.toList).2⟩ := by
  rw [BundleKey.ofString?, load_named hq h, Option.map_some]
  dsimp only
  rw [String.ofList_toList]

/-- **The name that a bundle was loaded by refers to it**, and does in every operation what its key
does, whatever else is loaded, if the name of the rule set does not end in a number. If it does, the
number is read as the alternative of the name before it, and the reference is another key. -/
theorem keyOf_loaded_name (hq : BundleKey.nameSeparator ∈ q.toList)
    (hload : c.load q 0 = (.ok k, c')) :
    ((∀ name n, ¬ BundleKey.EndsInNumber k.bundle name n) →
      c'.keyOf (.name q) = .ok k ∧ c'.Replaces (.name q) (.key k)) ∧
    ∀ name n, BundleKey.EndsInNumber k.bundle name n →
      c'.keyOf (.name q) = c'.loadedKey ⟨k.repository, name, n⟩ ∧ c'.keyOf (.name q) ≠ .ok k := by
  have hread := ofString?_of_load hq hload
  have hloaded : c'.loadedKey k = .ok k := loadedKey_of_mem (mem_of_load hload)
  refine ⟨fun hplain => ?_, fun name n hends => ?_⟩
  · have hkey : c'.keyOf (.name q) = .ok k := by
      obtain ⟨-, -, -, halternate, -⟩ := load_ok hload
      rw [BundleKey.readName_of_plain hplain, ← halternate] at hread
      simp only [keyOf, hread]
      exact hloaded
    exact ⟨hkey, replaces_of_keyOf_eq rfl rfl (hkey.trans hloaded.symm)⟩
  · rw [BundleKey.readName_of_endsInNumber hends] at hread
    have hkey : c'.keyOf (.name q) = c'.loadedKey ⟨k.repository, name, n⟩ := by
      simp only [keyOf, hread]
    refine ⟨hkey, fun hk => hends.ne ?_⟩
    exact congrArg BundleKey.bundle (eq_of_loadedKey (hkey.symm.trans hk))

end AnyEngine

/-- Two versions of a set, of which the second has a number behind its dot. -/
def versions : RuleStore :=
  .ofList [(RuleSet.new "v1").addChars "a" ["one", "uno"], (RuleSet.new "v1.1").addChar "a" "new",
    (RuleSet.new "v1.x").addChar "a" "next"]

/-- A composer that has loaded the second alternative of the first version. -/
def versioned : Composer RuleStore :=
  (ofRepositories true [("mem", versions)]).perform (.load "v1" 1)

/-- What is loaded of a version that writes a text for `a`. -/
def versionLoaded (bundle : String) (alternate : UInt64) (text : String) : Loaded :=
  ⟨⟨"mem", bundle, alternate⟩, ⟨bundle, .empty, .ofList [(.codePoint 97, text)], [], []⟩, []⟩

theorem versioned_eq :
    versioned = ⟨[("mem", versions)], [versionLoaded "v1" 1 "uno"], [], true⟩ := by
  have hbuilt : BuiltFrom true versions (versionLoaded "v1" 1 "uno")
      ⟨[(RuleSet.new "v1").addChars "a" ["one", "uno"]], []⟩ :=
    builtFrom_of_no_includes (by decide +kernel) rfl (by decide +kernel) rfl
  exact congrArg Prod.snd (hbuilt.load_eq (c := ofRepositories true [("mem", versions)])
    (q := "v1") (by decide +kernel) (by decide +kernel) (by decide +kernel))

theorem versioned_load_second : versioned.load "mem:v1.1" 0 = (.ok ⟨"mem", "v1.1", 0⟩,
    ⟨[("mem", versions)], [versionLoaded "v1" 1 "uno", versionLoaded "v1.1" 0 "new"], [], true⟩) := by
  have hbuilt : BuiltFrom true versions (versionLoaded "v1.1" 0 "new")
      ⟨[(RuleSet.new "v1.1").addChar "a" "new"], []⟩ :=
    builtFrom_of_no_includes (by decide +kernel) rfl (by decide +kernel) rfl
  rw [versioned_eq]
  exact hbuilt.load_eq (c := ⟨[("mem", versions)], [versionLoaded "v1" 1 "uno"], [], true⟩)
    (q := "mem:v1.1") (by decide +kernel) (by decide +kernel) (by decide +kernel)

theorem versioned_load_next : versioned.load "mem:v1.x" 0 = (.ok ⟨"mem", "v1.x", 0⟩,
    ⟨[("mem", versions)], [versionLoaded "v1" 1 "uno", versionLoaded "v1.x" 0 "next"], [], true⟩) := by
  have hbuilt : BuiltFrom true versions (versionLoaded "v1.x" 0 "next")
      ⟨[(RuleSet.new "v1.x").addChar "a" "next"], []⟩ :=
    builtFrom_of_no_includes (by decide +kernel) rfl (by decide +kernel) rfl
  rw [versioned_eq]
  exact hbuilt.load_eq (c := ⟨[("mem", versions)], [versionLoaded "v1" 1 "uno"], [], true⟩)
    (q := "mem:v1.x") (by decide +kernel) (by decide +kernel) (by decide +kernel)

/-- The name of one version refers to itself after it was loaded, and the name of another to the
alternative that was loaded before it. -/
theorem keyOf_loaded_name_versioned :
    ((versioned.load "mem:v1.x" 0).2.keyOf (.name "mem:v1.x") = .ok ⟨"mem", "v1.x", 0⟩) ∧
      (versioned.load "mem:v1.1" 0).2.keyOf (.name "mem:v1.1") = .ok ⟨"mem", "v1", 1⟩ := by
  have hfree : ∀ name n, ¬ BundleKey.EndsInNumber "v1.x" name n := by
    intro name n h
    obtain ⟨digits, hsplit, hn⟩ := h.split
    have hx : Text.splitLast BundleKey.alternateSeparator "v1.x".toList =
        some (['v', '1'], ['x']) := by decide +kernel
    obtain rfl : ['x'] = digits := congrArg Prod.snd (Option.some.inj (hx.symm.trans hsplit))
    have hno : Text.readIndex ['x'] = none := by decide +kernel
    rw [hno] at hn
    cases hn
  have hends : BundleKey.EndsInNumber "v1.1" "v1" 1 :=
    ⟨['1'], by decide +kernel, by decide, by decide +kernel⟩
  refine ⟨?_, ?_⟩
  · rw [versioned_load_next]
    exact ((keyOf_loaded_name (by decide) versioned_load_next).1 hfree).1
  · rw [versioned_load_second, ((keyOf_loaded_name (by decide) versioned_load_second).2 _ _ hends).1]
    decide +kernel

/-- A bundle can be loaded by a name that refers to another loaded bundle afterwards. -/
theorem name_refers_elsewhere : Reachable versioned ∧ BundleKey.nameSeparator ∈ "mem:v1.1".toList ∧
    (versioned.load "mem:v1.1" 0).1 = .ok ⟨"mem", "v1.1", 0⟩ ∧
    (versioned.load "mem:v1.1" 0).2.keyOf (.name "mem:v1.1") = .ok ⟨"mem", "v1", 1⟩ ∧
    (⟨"mem", "v1", 1⟩ : BundleKey) ≠ ⟨"mem", "v1.1", 0⟩ := by
  refine ⟨.step _ (.start true _), by decide, ?_, ?_, by decide⟩
  · rw [versioned_load_second]
  · rw [versioned_load_second]
    decide +kernel

end Composer

end Lettering
