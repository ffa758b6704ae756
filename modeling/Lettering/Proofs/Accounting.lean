import Lettering.Proofs.Refusing

/-!
# What becomes of every rule

Building a bundle leaves no rule out without saying so.

* `SourcedRule.Fate`: what becomes of a rule, one case after the other. `SourcedRule.fate_of_valid`: it
  is what the rule contributes. A rule that adds nothing leaves a warning (`Fate.warned`).
* `Draft.mem_named_iff`, `LastWriter`: which keys of several characters a draft holds, and who wrote
  them last.
* `Folds.named`, `Folds.chars`: what folding keeps of the entries.
* `Bundle.build_accounts` puts these together for a bundle that is built, flattened or not.
-/

namespace Lettering

/-! ## 1. Last writers -/

/-- A rule writes to a key, and none of those behind it does. -/
def LastWriter (alternate : Nat) (rules : List SourcedRule) (key set : String) : Prop :=
  ∃ before r behind, rules = before ++ r :: behind ∧ key ∈ (r.writes alternate).map (·.1) ∧
    r.set = set ∧ ∀ x ∈ behind, key ∉ (x.writes alternate).map (·.1)

section LastWriters

variable {alternate : Nat} {rules : List SourcedRule} {key set : String}

theorem lastWriter_iff : LastWriter alternate rules key set ↔
    lastAnswer? (SourcedRule.writer? alternate key) rules = some set := by
  rw [lastAnswer?_eq_some_iff]
  simp only [SourcedRule.writer?, Option.ite_none_right_eq_some, Option.some.injEq, and_assoc,
    ite_eq_right_iff, reduceCtorEq, imp_false]
  exact Iff.rfl

/-- A key that is written has a last writer. -/
theorem exists_lastWriter {r : SourcedRule} (hr : r ∈ rules)
    (hkey : key ∈ (r.writes alternate).map (·.1)) : ∃ set, LastWriter alternate rules key set := by
  cases hlast : lastAnswer? (SourcedRule.writer? alternate key) rules with
  | some set => exact ⟨set, lastWriter_iff.2 hlast⟩
  | none =>
    have hnone := lastAnswer?_eq_none_iff.1 hlast r hr
    rw [SourcedRule.writer?, if_pos hkey] at hnone
    cases hnone

end LastWriters

section AnyEngine

variable [Regex.Engine]

/-! ## 2. What becomes of a rule -/

namespace SourcedRule

/-- **What becomes of a rule**: its writes to the head, its rule of the tail, and its warnings. -/
inductive Fate (alternate : Nat) (r : SourcedRule) :
    List (String × String) → Option TailRule → List RuleWarning → Prop where
  | written {key picked : String} {value : Alternatives String} (hrule : r.rule = .char key value)
      (hplain : r.swapped = false) (hpick : value.pick alternate = some picked) :
      Fate alternate r [(key, picked)] none []
  | writtenBack {key : String} {value : Alternatives String} (hrule : r.rule = .char key value)
      (hswapped : r.swapped = true) (hkey : key ≠ "") (hlists : r.rule.listsNothing = false) :
      Fate alternate r
        ((value.all.filter (· ≠ "")).map fun alternative => (alternative, key)) none
        ((value.all.filter (· = "")).map fun _ => .swappedDeletion r.set key)
  | noFallback {value : Alternatives String} (hrule : r.rule = .char "" value)
      (hswapped : r.swapped = true) (hlists : r.rule.listsNothing = false) :
      Fate alternate r [] none [.swappedDefault r.set]
  | shifted {s : OffsetSpec} {l : Shift} (htaken : r.offset? alternate = some s)
      (hmade : s.shift r.swapped = .ok l) : Fate alternate r [] (some (.shift l)) []
  | mapped {s : RangeSpec} {t : IntervalMap String} (htaken : r.range? alternate = some s)
      (hmade : IntervalMap.make (s.bounds.map (·.toNat)) s.values = .ok t) :
      Fate alternate r [] (some (.intervals (t.withFilling true))) []
  | substituted {s : PatternSpec} {p : Substitution} (htaken : r.pattern? alternate = some s)
      (hmade : Substitution.make? s.pattern s.replacement = some p) :
      Fate alternate r [] (some (.substitution p)) []
  | oneWayRange {name : String} {spec : Alternatives RangeSpec} (hrule : r.rule = .range name spec)
      (hswapped : r.swapped = true) : Fate alternate r [] none [.swappedRange r.set name]
  | oneWayPattern {name : String} {spec : Alternatives PatternSpec}
      (hrule : r.rule = .pattern name spec) (hswapped : r.swapped = true) :
      Fate alternate r [] none [.swappedPattern r.set name]
  | unlisted (hlists : r.rule.listsNothing = true)
      (hkind : r.swapped = true → r.rule.kind.isOneWay = false) :
      Fate alternate r [] none [.noAlternatives r.set r.rule.name]

namespace Fate

variable {alternate : Nat} {r : SourcedRule} {writes : List (String × String)}
  {tailRule? : Option TailRule} {warnings : List RuleWarning}

/-- **A rule that adds nothing leaves a warning.** -/
theorem warned (h : r.Fate alternate writes tailRule? warnings) (hwrites : writes = [])
    (htail : tailRule? = none) : warnings ≠ [] := by
  cases h with
  | written => cases hwrites
  | shifted | mapped | substituted => cases htail
  | noFallback | oneWayRange | oneWayPattern | unlisted => exact List.cons_ne_nil _ _
  | @writtenBack key value hrule _ _ hlists =>
    intro hnone
    rw [List.map_eq_nil_iff, List.filter_eq_nil_iff] at hwrites hnone
    have hempty : value.all = [] := List.eq_nil_iff_forall_not_mem.2 fun alternative hmem => by
      by_cases he : alternative = ""
      · exact hnone alternative hmem (decide_eq_true he)
      · exact hwrites alternative hmem (decide_eq_true he)
    rw [hrule] at hlists
    exact absurd (List.isEmpty_iff.2 hempty) (Bool.eq_false_iff.1 hlists)

/-- A rule that is none for characters becomes a rule of the tail, or leaves one warning. -/
theorem pushed_or_warned (h : r.Fate alternate writes tailRule? warnings)
    (hkind : r.rule.kind ≠ .char) : writes = [] ∧
      ((∃ l, tailRule? = some l ∧ warnings = []) ∨ (tailRule? = none ∧ ∃ w, warnings = [w])) := by
  cases h with
  | written hrule | writtenBack hrule | noFallback hrule =>
    rw [hrule] at hkind
    exact absurd rfl hkind
  | shifted | mapped | substituted => exact ⟨rfl, .inl ⟨_, rfl, rfl⟩⟩
  | oneWayRange | oneWayPattern | unlisted => exact ⟨rfl, .inr ⟨rfl, _, rfl⟩⟩

end Fate

variable {alternate : Nat} {r : SourcedRule}

theorem fate_unlisted (hlists : r.rule.listsNothing = true)
    (hkind : r.swapped = true → r.rule.kind.isOneWay = false) :
    r.Fate alternate (r.writes alternate) (r.tailRule? alternate) r.warnings := by
  have hnothing : r.writes alternate = [] ∧ r.tailRule? alternate = none ∧
      r.warnings = [.noAlternatives r.set r.rule.name] := by
    obtain ⟨⟨swapped, rule⟩, set⟩ := r
    cases rule with
    | char key value =>
      have hnone : value.pick alternate = none := Alternatives.pick_eq_none_iff.2 hlists
      have hall := Alternatives.all_of_pick_eq_none hnone
      refine ⟨?_, rfl, if_pos hlists⟩
      cases swapped <;> simp [PlacedRule.writes, hnone, hall]
    | offset name spec =>
      have hnone : spec.pick alternate = none := Alternatives.pick_eq_none_iff.2 hlists
      refine ⟨rfl, ?_, if_pos hlists⟩
      simp [PlacedRule.tailRule?, PlacedRule.offset?, hnone]
    | range name spec =>
      have hnone : spec.pick alternate = none := Alternatives.pick_eq_none_iff.2 hlists
      cases swapped with
      | true => cases hkind rfl
      | false =>
        refine ⟨rfl, ?_, if_pos hlists⟩
        simp [PlacedRule.tailRule?, PlacedRule.range?, hnone]
    | pattern name spec =>
      have hnone : spec.pick alternate = none := Alternatives.pick_eq_none_iff.2 hlists
      cases swapped with
      | true => cases hkind rfl
      | false =>
        refine ⟨rfl, ?_, if_pos hlists⟩
        simp [PlacedRule.tailRule?, PlacedRule.pattern?, hnone]
  obtain ⟨hwrites, htail, hwarnings⟩ := hnothing
  rw [hwrites, htail, hwarnings]
  exact .unlisted hlists hkind

theorem fate_char {key : String} {value : Alternatives String} (hrule : r.rule = .char key value)
    (hlists : r.rule.listsNothing = false) :
    r.Fate alternate (r.writes alternate) (r.tailRule? alternate) r.warnings := by
  obtain ⟨⟨swapped, rule⟩, set⟩ := r
  obtain rfl : rule = .char key value := hrule
  have hsome : value.isEmpty = false := hlists
  cases swapped with
  | false =>
    obtain ⟨picked, hpick⟩ := Alternatives.exists_pick (List.isEmpty_eq_false_iff.1 hsome) alternate
    have hfate := Fate.written (r := ⟨⟨false, .char key value⟩, set⟩) rfl rfl hpick
    simpa [PlacedRule.writes, PlacedRule.tailRule?, warnings, hsome, hpick] using hfate
  | true =>
    by_cases hkey : key = ""
    · subst hkey
      have hfate : Fate alternate ⟨⟨true, .char "" value⟩, set⟩ _ _ _ :=
        .noFallback rfl rfl hlists
      simpa [PlacedRule.writes, PlacedRule.tailRule?, warnings, hsome] using hfate
    · have hfate : Fate alternate ⟨⟨true, .char key value⟩, set⟩ _ _ _ :=
        .writtenBack rfl rfl hkey hlists
      simpa [PlacedRule.writes, PlacedRule.tailRule?, warnings, hsome, hkey] using hfate

/-- **A valid rule contributes what becomes of it.** -/
theorem fate_of_valid (h : r.Valid alternate) :
    r.Fate alternate (r.writes alternate) (r.tailRule? alternate) r.warnings := by
  by_cases hunlisted : r.rule.listsNothing = true ∧
    (r.swapped = true → r.rule.kind.isOneWay = false)
  · exact fate_unlisted hunlisted.1 hunlisted.2
  obtain ⟨⟨swapped, rule⟩, set⟩ := r
  cases rule with
  | char key value =>
    exact fate_char rfl (Bool.eq_false_iff.2 fun hlists => hunlisted ⟨hlists, fun _ => rfl⟩)
  | offset name spec =>
    have hlists : spec.isEmpty = false :=
      Bool.eq_false_iff.2 fun hlists => hunlisted ⟨hlists, fun _ => rfl⟩
    obtain ⟨s, hs⟩ := Alternatives.exists_pick (List.isEmpty_eq_false_iff.1 hlists) alternate
    obtain ⟨l, hl⟩ := h.exists_shift hs
    have htail : PlacedRule.tailRule? alternate ⟨swapped, .offset name spec⟩ = some (.shift l) :=
      PlacedRule.tailRule?_eq_shift_iff.2 ⟨s, hs, hl⟩
    have hfate := Fate.shifted (r := ⟨⟨swapped, .offset name spec⟩, set⟩) hs hl
    simpa [PlacedRule.writes, htail, warnings, hlists] using hfate
  | range name spec =>
    cases swapped with
    | true => exact .oneWayRange rfl rfl
    | false =>
      have hlists : spec.isEmpty = false := Bool.eq_false_iff.2 fun hlists =>
        hunlisted ⟨hlists, fun hswapped => absurd hswapped Bool.false_ne_true⟩
      obtain ⟨s, hs⟩ := Alternatives.exists_pick (List.isEmpty_eq_false_iff.1 hlists) alternate
      obtain ⟨t, ht⟩ := h.exists_map hs
      have htail : PlacedRule.tailRule? alternate ⟨false, .range name spec⟩ =
          some (.intervals (t.withFilling true)) :=
        PlacedRule.tailRule?_eq_intervals_iff.2 ⟨s, t, hs, ht, rfl⟩
      have hfate := Fate.mapped (r := ⟨⟨false, .range name spec⟩, set⟩) hs ht
      simpa [PlacedRule.writes, htail, warnings, hlists] using hfate
  | pattern name spec =>
    cases swapped with
    | true => exact .oneWayPattern rfl rfl
    | false =>
      have hlists : spec.isEmpty = false := Bool.eq_false_iff.2 fun hlists =>
        hunlisted ⟨hlists, fun hswapped => absurd hswapped Bool.false_ne_true⟩
      obtain ⟨s, hs⟩ := Alternatives.exists_pick (List.isEmpty_eq_false_iff.1 hlists) alternate
      obtain ⟨p, hp⟩ := h.exists_substitution hs
      have htail : PlacedRule.tailRule? alternate ⟨false, .pattern name spec⟩ =
          some (.substitution p) :=
        PlacedRule.tailRule?_eq_substitution_iff.2 ⟨s, hs, hp⟩
      have hfate := Fate.substituted (r := ⟨⟨false, .pattern name spec⟩, set⟩) hs hp
      simpa [PlacedRule.writes, htail, warnings, hlists] using hfate

end SourcedRule

/-! ## 3. Keys of several characters -/

namespace Draft.Holds

variable {alternate : Nat} {rules : List SourcedRule} {key : String} {d : Draft}

/-- **A draft holds under names the keys of several characters that are written.** -/
theorem mem_named_iff (h : Holds alternate rules d) :
    key ∈ d.head.named ↔ 1 < key.length ∧
      ∃ r ∈ rules, key ∈ (r.writes alternate).map (·.1) := by
  have hentry : d.head.named[key]? = lastAnswer? (Dictionary.writeTo? (.named key))
      (rules.flatMap fun r => (r.writes alternate).map headEntry) := by
    have hfind := Dictionary.find?_insertMany .empty
      (rules.flatMap fun r => (r.writes alternate).map headEntry) (.named key)
    rw [← Dictionary.ofList, ← h.head] at hfind
    simpa [Dictionary.find?, Dictionary.empty] using hfind
  rw [Std.ExtTreeMap.mem_iff_isSome_getElem?, hentry]
  constructor
  · intro hsome
    obtain ⟨value, hvalue⟩ := Option.isSome_iff_exists.1 hsome
    obtain ⟨entry, hentry, hwritten⟩ := exists_of_lastAnswer?_eq_some hvalue
    obtain ⟨r, hr, hentry⟩ := List.mem_flatMap.1 hentry
    obtain ⟨write, hwrite, rfl⟩ := List.mem_map.1 hentry
    have hnamed := congrArg Prod.fst (Dictionary.writeTo?_eq_some_iff.1 hwritten)
    obtain ⟨rfl, hlong⟩ := Dictionary.Key.ofString_eq_named_iff.1 hnamed
    exact ⟨hlong, r, hr, List.mem_map_of_mem hwrite⟩
  · rintro ⟨hlong, r, hr, hkey⟩
    obtain ⟨write, hwrite, rfl⟩ := List.mem_map.1 hkey
    rw [Option.isSome_iff_ne_none]
    intro hnone
    have hunwritten := lastAnswer?_eq_none_iff.1 hnone (headEntry write)
      (List.mem_flatMap.2 ⟨r, hr, List.mem_map_of_mem hwrite⟩)
    have hnamed : (headEntry write).1 = .named write.1 :=
      Dictionary.Key.ofString_eq_named_iff.2 ⟨rfl, hlong⟩
    exact Dictionary.writeTo?_eq_none_iff.1 hunwritten hnamed

/-- **The warnings for these keys**: one for each of them, that names who wrote it last. -/
theorem longKeyWarnings_eq (h : Holds alternate rules d) (name : String) :
    ∃ (keys : List String) (author : String → String), keys.Nodup ∧
      (∀ key, key ∈ keys ↔ 1 < key.length ∧ ∃ r ∈ rules, key ∈ (r.writes alternate).map (·.1)) ∧
      (∀ key ∈ keys, LastWriter alternate rules key (author key)) ∧
      d.longKeyWarnings name = keys.map fun key => .longKey (author key) key := by
  have hmem (key : String) : key ∈ d.head.named.keys ↔
      1 < key.length ∧ ∃ r ∈ rules, key ∈ (r.writes alternate).map (·.1) :=
    Std.ExtTreeMap.mem_keys.trans h.mem_named_iff
  refine ⟨d.head.named.keys, fun key => d.origins.getD key name, Std.ExtTreeMap.nodup_keys, hmem,
    fun key hkey => ?_, ?_⟩
  · obtain ⟨hlong, r, hr, hwritten⟩ := (hmem key).1 hkey
    obtain ⟨set, hset⟩ := exists_lastWriter hr hwritten
    have horigin := h.origin key hlong
    rw [lastWriter_iff.1 hset] at horigin
    dsimp only
    rw [Std.ExtTreeMap.getD_eq_getD_getElem?, horigin]
    exact hset
  · rw [longKeyWarnings, ← Std.ExtTreeMap.map_fst_toList_eq_keys, List.map_map]
    rfl

end Draft.Holds

/-! ## 4. What folding keeps of the entries -/

namespace Folds

variable {head head' : Dictionary} {tail kept : List TailRule}

/-- Entries under names stay. -/
theorem named (h : Folds head tail head' kept) : head'.named = head.named := by
  induction h with
  | done | stopped => rfl
  | written hw _ ih => rw [ih, Shift.named_writeInto hw]
  | passed s _ ih => exact ih

/-- So do those of a key that no folded shift covers. -/
theorem chars (h : Folds head tail head' kept) {key : Nat}
    (hfree : ∀ l, .shift l ∈ tail.takeWhile (!·.isIntervals) → l.covers key = false) :
    head'.chars[key]? = head.chars[key]? := by
  induction h with
  | done | stopped => rfl
  | @written head next head' l rest kept hw _ ih =>
    rw [ih fun l' hl' => hfree l' (List.mem_cons_of_mem _ hl')]
    exact Shift.chars_writeInto hw (hfree l List.mem_cons_self)
  | passed s _ ih => exact ih fun l' hl' => hfree l' (List.mem_cons_of_mem _ hl')

end Folds

/-! ## 5. Bundles -/

namespace Bundle

/-- **A bundle accounts for the rules of its layers**: each has its fate, and head, tail and
warnings are put together from them in their order. -/
structure Accounts (layers : List RuleSet) (alternate : Nat) (b : Bundle) : Prop where
  /-- What becomes of a rule is what it contributes. -/
  fate : ∀ r ∈ sourcedRules layers,
    r.Fate alternate (r.writes alternate) (r.tailRule? alternate) r.warnings
  /-- A rule that adds nothing leaves a warning. -/
  warned : ∀ r ∈ sourcedRules layers, r.writes alternate = [] → r.tailRule? alternate = none →
    r.warnings ≠ []
  /-- A rule that is none for characters becomes one rule of the tail, or leaves one warning. -/
  single : ∀ r ∈ sourcedRules layers, r.rule.kind ≠ .char →
    (∃ l, r.tailRule? alternate = some l ∧ r.warnings = []) ∨
      (r.tailRule? alternate = none ∧ ∃ w, r.warnings = [w])
  /-- The head holds the writes, later ones over earlier ones. -/
  head : b.head =
    .ofList ((sourcedRules layers).flatMap fun r => (r.writes alternate).map headEntry)
  /-- The tail holds the rules that become one. -/
  tail : b.tail = (sourcedRules layers).filterMap fun r => r.tailRule? alternate
  /-- The warnings are those of the rules, behind one for each layer that uses the older
  spelling. -/
  warnings : b.warnings = layers.flatMap fun layer =>
    (if layer.metadata.usesOlderSpelling then [.olderSpelling layer.name] else []) ++
      layer.sourced.flatMap SourcedRule.warnings

/-- **What flattening adds to the account.** -/
structure Drops (layers : List RuleSet) (alternate : Nat) (plain flat : Bundle) : Prop where
  /-- Behind the same warnings there is one for each key of several characters that is written,
  with the set that wrote it last. -/
  warnings : ∃ (keys : List String) (author : String → String), keys.Nodup ∧
    (∀ key, key ∈ keys ↔
      1 < key.length ∧ ∃ r ∈ sourcedRules layers, key ∈ (r.writes alternate).map (·.1)) ∧
    (∀ key ∈ keys, LastWriter alternate (sourcedRules layers) key (author key)) ∧
    flat.warnings = plain.warnings ++ keys.map fun key => .longKey (author key) key
  /-- These keys are gone, and the default stays. -/
  named : flat.head.named = ∅
  fallback : flat.head.fallback = plain.head.fallback
  /-- Up to the first interval map the shifts are taken out of the tail, -/
  tail : flat.tail = (plain.tail.takeWhile (!·.isIntervals)).filter (!·.isShift) ++
    plain.tail.dropWhile (!·.isIntervals)
  /-- and no key gets lost with them, -/
  touched (key : Nat) :
    (flat.head.chars.contains key = true ∨ ∃ l ∈ flat.tail, l.covers key = true) ↔
      (plain.head.chars.contains key = true ∨ ∃ l ∈ plain.tail, l.covers key = true)
  /-- nor is an entry changed that they do not cover. -/
  chars (key : Nat) :
    (∀ l, .shift l ∈ plain.tail.takeWhile (!·.isIntervals) → l.covers key = false) →
      flat.head.chars[key]? = plain.head.chars[key]?

variable {name : String} {layers : List RuleSet} {alternate : Nat}

theorem accounts_of_build {plain : Bundle}
    (h : build name layers ⟨alternate, false⟩ = .ok plain) : plain.Accounts layers alternate := by
  obtain ⟨hvalid, rfl⟩ := build_plain_eq_ok_iff.1 h
  have hholds := Draft.holds_draftOf alternate layers
  have hfate (r : SourcedRule) (hr : r ∈ sourcedRules layers) :=
    SourcedRule.fate_of_valid (hvalid r hr)
  exact {
    fate := hfate
    warned := fun r hr => (hfate r hr).warned
    single := fun r hr hkind => ((hfate r hr).pushed_or_warned hkind).2
    head := hholds.head
    tail := hholds.tail
    warnings := Draft.warnings_draftOf alternate layers }

theorem drops_of_build {flat : Bundle} (h : build name layers ⟨alternate, true⟩ = .ok flat) :
    ∃ plain, build name layers ⟨alternate, false⟩ = .ok plain ∧
      Drops layers alternate plain flat := by
  obtain ⟨d, d', hadded, hflat, rfl⟩ := exists_of_build_flat h
  obtain ⟨head, tail, hfold, rfl, rfl, hwarnings⟩ := Draft.exists_of_flatten hflat
  have hfolds := Draft.folds_of_foldShifts hfold
  obtain ⟨-, rfl⟩ := Draft.addLayers_eq_ok_iff.1 hadded
  have hholds := Draft.holds_draftOf alternate layers
  obtain ⟨keys, author, hnodup, hkeys, hauthor, hdropped⟩ := hholds.longKeyWarnings_eq name
  refine ⟨_, build_plain_of_ok hadded, ?_⟩
  exact {
    warnings := ⟨keys, author, hnodup, hkeys, hauthor, hdropped ▸ hwarnings⟩
    named := hfolds.named
    fallback := hfolds.fallback
    tail := hfolds.kept_eq
    touched := hfolds.touched_iff
    chars := fun key hfree => hfolds.chars hfree }

/-- **No rule is left out silently when a bundle is built**: the plain bundle accounts for all of
them, and where the bundle is flattened so does what is dropped. -/
theorem build_accounts {options : BuildOptions} {b : Bundle}
    (h : build name layers options = .ok b) :
    ∃ plain, build name layers ⟨options.alternate, false⟩ = .ok plain ∧
      plain.Accounts layers options.alternate ∧
      (options.flatten = false → b = plain) ∧
      (options.flatten = true → Drops layers options.alternate plain b) := by
  obtain ⟨alternate, flatten⟩ := options
  cases flatten with
  | false => exact ⟨b, h, accounts_of_build h, fun _ => rfl, nofun⟩
  | true =>
    obtain ⟨plain, hplain, hdrops⟩ := drops_of_build h
    exact ⟨plain, hplain, accounts_of_build hplain, nofun, fun _ => hdrops⟩

end Bundle

end AnyEngine

namespace Bundle

/-- A set that writes to two characters, under a swapped one that does so too and has a default, a
deletion and a range. -/
def accountedLayers : List RuleSet :=
  [((RuleSet.new "low").addChar "ab" "x").addOffset "up" ⟨98, 98, 1⟩,
    ((((RuleSet.new "high").swapping true).addChar "" "?").addChars "k" ["", "ab"]).addRange "boxed"
      ⟨[2, 1], []⟩]

/-- The swapped set is warned about all three, and named for the key that both write. -/
theorem build_accounts_two :
    ∃ flat plain, build "two" accountedLayers ⟨0, true⟩ = .ok flat ∧
      plain.Accounts accountedLayers 0 ∧ Drops accountedLayers 0 plain flat ∧
      plain.warnings = [.swappedDefault "high", .swappedDeletion "high" "k",
        .swappedRange "high" "boxed"] ∧
      flat.warnings = plain.warnings ++ [.longKey "high" "ab"] := by
  obtain ⟨flat, hflat, hwarnings⟩ : ∃ b, build "two" accountedLayers ⟨0, true⟩ = .ok b ∧
    b.warnings = [.swappedDefault "high", .swappedDeletion "high" "k",
      .swappedRange "high" "boxed", .longKey "high" "ab"] := ⟨_, rfl, by decide +kernel⟩
  obtain ⟨plain, -, haccounts, -, hdrops⟩ := build_accounts hflat
  have hplain : plain.warnings = [.swappedDefault "high", .swappedDeletion "high" "k",
      .swappedRange "high" "boxed"] := haccounts.warnings.trans (by decide +kernel)
  exact ⟨flat, plain, hflat, haccounts, hdrops rfl, hplain, by rw [hwarnings, hplain]; rfl⟩

end Bundle

end Lettering
