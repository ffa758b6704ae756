import Lettering.Proofs.Naming

/-!
# Keys as they are written

A key is written with its repository in front of the first colon and its alternative behind the last
dot, so that it can be read back whatever its name holds, as long as the repository's name holds no
colon.

* `Plain`: keys whose repository's name holds no colon. Only such keys are ever read
  (`plain_of_ofString?`).
* `ofString?_display`: a plain key is read back from its written form; `ofString?_eq_none_iff`: what
  has no written key in it.
* `written_keys_refer` adds what follows for a composer: the written form of a loaded key refers to
  it.
-/

namespace Lettering

namespace BundleKey

/-! ## 1. Reading back -/

/-- The name of the repository holds no colon. -/
def Plain (k : BundleKey) : Prop := nameSeparator ∉ k.repository.toList

instance (k : BundleKey) : Decidable k.Plain :=
  inferInstanceAs (Decidable (nameSeparator ∉ k.repository.toList))

/-- A name and an alternative as they stand behind the repository. -/
def written (bundle : String) (alternate : UInt64) : String :=
  bundle ++ String.singleton alternateSeparator ++ toString alternate.toNat

theorem endsInNumber_written (bundle : String) (alternate : UInt64) :
    EndsInNumber (written bundle alternate) bundle alternate := by
  refine ⟨Nat.toDigits 10 alternate.toNat, ?_, Text.not_mem_toDigits rfl _,
    Text.readIndex_toDigits alternate.toNat_lt⟩
  simp [written]

theorem toList_display (k : BundleKey) : k.display.toList =
    k.repository.toList ++ nameSeparator :: (written k.bundle k.alternate).toList := by
  simp [display, written]

/-- **A key is read back from its written form**, if its repository's name holds no colon. -/
theorem ofString?_display {k : BundleKey} (h : k.Plain) : ofString? k.display = some k := by
  have hname := readName_of_endsInNumber (endsInNumber_written k.bundle k.alternate)
  rw [ofString?, toList_display, Text.splitFirst_append h, Option.map_some]
  dsimp only
  rw [hname, String.ofList_toList]

theorem ofString?_eq_none_iff {s : String} : ofString? s = none ↔ nameSeparator ∉ s.toList := by
  rw [ofString?, Option.map_eq_none_iff, Text.splitFirst_eq_none_iff]

/-- A key that was read has its repository in front of the first colon. -/
theorem plain_of_ofString? {s : String} {k : BundleKey} (h : ofString? s = some k) : k.Plain := by
  obtain ⟨⟨repository, rest⟩, hsplit, rfl⟩ := Option.map_eq_some_iff.1 h
  unfold Plain
  dsimp only
  rw [String.toList_ofList]
  exact Text.not_mem_of_splitFirst hsplit

/-- What is said about keys and their written forms. -/
structure ReadsBack : Prop where
  /-- A key whose repository's name holds no colon is read back, -/
  display {k : BundleKey} : k.Plain → ofString? k.display = some k
  /-- and no other such key is written like it. -/
  injective {k k' : BundleKey} : k.Plain → k'.Plain → k.display = k'.display → k = k'
  /-- A text is no key exactly if it holds no colon. -/
  refused (s : String) : ofString? s = none ↔ nameSeparator ∉ s.toList
  /-- Whatever key is read is such a key, and is read again from its own written form. -/
  read {s : String} {k : BundleKey} : ofString? s = some k → k.Plain ∧ ofString? k.display = some k

theorem reads_back : ReadsBack where
  display := ofString?_display
  injective h h' hsame := by
    have hread := ofString?_display h
    rw [hsame, ofString?_display h'] at hread
    exact (Option.some.inj hread).symm
  refused _ := ofString?_eq_none_iff
  read h := ⟨plain_of_ofString? h, ofString?_display (plain_of_ofString? h)⟩

end BundleKey

/-! ## 2. Loaded keys -/

namespace Composer

section AnyEngine

variable [Regex.Engine] {ρ : Type}

theorem keyOf_display {c : Composer ρ} {key : BundleKey} (hplain : key.Plain)
    (hkey : key ∈ c.loadedKeys) : c.keyOf (.name key.display) = .ok key := by
  simp only [keyOf, BundleKey.ofString?_display hplain]
  exact loadedKey_of_mem hkey

variable [Repository ρ]

/-- A loaded key names a bound repository. -/
theorem Coherent.repository_bound {c : Composer ρ} (h : Coherent c) {key : BundleKey}
    (hkey : key ∈ c.loadedKeys) : key.repository ∈ c.repositoryNames := by
  obtain ⟨l, hl, rfl⟩ := List.mem_map.1 hkey
  obtain ⟨repository, -, hr, -⟩ := h.entries l hl
  exact List.mem_map_of_mem hr

/-- **Keys are written and read without loss, and the written form of a loaded key refers to it**, in
every composer that a run of operations reaches and whose repositories have no colon in their
names. -/
theorem written_keys_refer : BundleKey.ReadsBack ∧ ∀ c : Composer ρ, Reachable c →
    (∀ name ∈ c.repositoryNames, BundleKey.nameSeparator ∉ name.toList) →
      ∀ key ∈ c.loadedKeys, c.keyOf (.name key.display) = .ok key := by
  refine ⟨BundleKey.reads_back, fun c hc hnames key hkey => keyOf_display ?_ hkey⟩
  exact hnames key.repository (hc.coherent.repository_bound hkey)

end AnyEngine

/-- A name with both separators and a number behind its dot is read back with the largest
alternative; a number that is too large belongs to the name; and a loaded alternative is referred to
by its written form. -/
theorem written_keys_refer_versioned :
    BundleKey.ofString? (⟨"mem", "v:1.7", 18446744073709551615⟩ : BundleKey).display =
        some ⟨"mem", "v:1.7", 18446744073709551615⟩ ∧
      BundleKey.ofString? "mem:v.18446744073709551616" =
        some ⟨"mem", "v.18446744073709551616", 0⟩ ∧
      versioned.keyOf (.name "mem:v1.1") = .ok ⟨"mem", "v1", 1⟩ := by
  have hall := @written_keys_refer _ RuleStore _
  have hnames : versioned.repositoryNames = ["mem"] := by
    rw [versioned_eq]
    rfl
  have hloaded : versioned.loadedKeys = [⟨"mem", "v1", 1⟩] := by
    rw [versioned_eq]
    rfl
  refine ⟨hall.1.display (by decide), by decide +kernel, ?_⟩
  refine hall.2 versioned (.step _ (.start true _)) ?_ ⟨"mem", "v1", 1⟩ ?_
  · rw [hnames]
    decide
  · rw [hloaded]
    exact List.mem_cons_self

end Composer

end Lettering
