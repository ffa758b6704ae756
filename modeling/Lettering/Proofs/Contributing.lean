import Lettering.Proofs.Layering

/-!
# What rules contribute

When a bundle is built, either something is wrong with a rule, or the rule contributes writes to the
head, a rule to the tail, and warnings. This file says which, from the rule alone.

* `SourcedRule.fault?`: what is wrong with a rule. `PlacedRule.Valid` says when nothing is: of the
  alternative that is taken, and of no other (`fault?_eq_none_iff`).
* `PlacedRule.writes`, `PlacedRule.tailRule?`, `SourcedRule.warnings`: what a rule writes to the
  head, adds to the tail and is warned about.
* `OffsetSpec.shift_eq_error_iff`, `RangeSpec.make_eq_error_iff`, `PatternSpec.make?_eq_none_iff`:
  no rule of the tail can be made exactly if something is wrong.
-/

namespace Lettering

/-! ## 1. Rules and their sets -/

/-- A rule with the reading that its layer gives it and the name of its set. -/
structure SourcedRule extends PlacedRule where
  set : String

/-- The rules of a layer. -/
def RuleSet.sourced (layer : RuleSet) : List SourcedRule :=
  layer.rules.map fun rule => ⟨⟨layer.metadata.swapsEntries, rule⟩, layer.name⟩

/-- The rules of some layers in their order. -/
def sourcedRules (layers : List RuleSet) : List SourcedRule := layers.flatMap RuleSet.sourced

namespace PlacedRule

/-- The offset that is taken of a rule. -/
def offset? (alternate : Nat) (r : PlacedRule) : Option OffsetSpec :=
  match r.rule with
  | .offset _ spec => spec.pick alternate
  | _ => none

/-- The range that is taken of a rule. A swapped rule gives none. -/
def range? (alternate : Nat) (r : PlacedRule) : Option RangeSpec :=
  match r.rule with
  | .range _ spec => if r.swapped then none else spec.pick alternate
  | _ => none

/-- The pattern that is taken of a rule. A swapped rule gives none. -/
def pattern? (alternate : Nat) (r : PlacedRule) : Option PatternSpec :=
  match r.rule with
  | .pattern _ spec => if r.swapped then none else spec.pick alternate
  | _ => none

end PlacedRule

/-! ## 2. Offsets and ranges that cannot be used -/

/-- The ends of an interval are in order, its start is not moved below zero, and swapped its end is
not moved past the 32-bit numbers. The start and the offset are added as 64-bit numbers, so that a
start past these counts as moved below zero (`OffsetSpec.sum_nonneg_iff`). -/
def OffsetSpec.Valid (swapped : Bool) (s : OffsetSpec) : Prop :=
  s.start.toNat ≤ s.finish.toNat ∧ 0 ≤ Shift.sum s.start.toNat s.offset.toInt ∧
    (swapped = true → (s.finish.toNat : Int) + s.offset.toInt ≤ 4294967295)

/-- The bounds and values make an interval map. -/
def RangeSpec.Valid (s : RangeSpec) : Prop :=
  IntervalMap.WellFormed (s.bounds.map (·.toNat)) s.values.length

/-- What is wrong with an offset: the order of its ends, then where its start is moved to, then the
first end whose moved form is too large. -/
def OffsetSpec.fault? (swapped : Bool) (s : OffsetSpec) : Option BuildError :=
  let offset := s.offset.toInt
  if s.finish.toNat < s.start.toNat then some (.startAfterEnd s.start.toNat s.finish.toNat)
  else if Shift.sum s.start.toNat offset < 0 then some (.negativeStart s.start.toNat offset)
  else if swapped = true ∧ 4294967295 < (s.start.toNat : Int) + offset then
    some (.shiftOverflow s.start.toNat offset)
  else if swapped = true ∧ 4294967295 < (s.finish.toNat : Int) + offset then
    some (.shiftOverflow s.finish.toNat offset)
  else none

/-- What is wrong with the bounds and values of a range. -/
def RangeSpec.fault? (s : RangeSpec) : Option BuildError :=
  match IntervalMap.check (s.bounds.map (·.toNat)) s.values.length with
  | .error e => some e
  | .ok () => none

/-- The start of an offset is not moved below zero exactly if it is moved to a 64-bit number that is
not negative. -/
theorem OffsetSpec.sum_nonneg_iff (s : OffsetSpec) : 0 ≤ Shift.sum s.start.toNat s.offset.toInt ↔
    0 ≤ (s.start.toNat : Int) + s.offset.toInt ∧
      (s.start.toNat : Int) + s.offset.toInt < 9223372036854775808 :=
  Shift.sum_nonneg_iff s.start.toNat_lt s.offset.le_toInt s.offset.toInt_lt

theorem OffsetSpec.fault?_eq_none_iff {swapped : Bool} {s : OffsetSpec} :
    s.fault? swapped = none ↔ s.Valid swapped := by
  unfold fault? Valid
  dsimp only
  split
  · exact iff_of_false nofun (by omega)
  · split
    · exact iff_of_false nofun (by omega)
    · split
      · rename_i hlarge
        refine iff_of_false nofun fun h => ?_
        have hfits := h.2.2 hlarge.1
        omega
      · split
        · rename_i hlarge
          refine iff_of_false nofun fun h => ?_
          have hfits := h.2.2 hlarge.1
          omega
        · rename_i hfits
          refine iff_of_true rfl ⟨by omega, by omega, fun hswapped => ?_⟩
          exact Int.not_lt.1 fun hlarge => hfits ⟨hswapped, hlarge⟩

theorem RangeSpec.fault?_eq_none_iff {s : RangeSpec} : s.fault? = none ↔ s.Valid := by
  unfold fault? Valid
  rw [← IntervalMap.check_eq_ok_iff]
  cases IntervalMap.check (s.bounds.map (·.toNat)) s.values.length with
  | error e => exact iff_of_false nofun nofun
  | ok _ => exact iff_of_true rfl rfl

/-- The shift of an offset; swapped, the one that takes everything back. -/
def OffsetSpec.shift (swapped : Bool) (s : OffsetSpec) : Except BuildError Shift :=
  if swapped then Shift.makeInverse s.start s.finish s.offset.toInt
  else Shift.make s.start s.finish s.offset.toInt

/-- An end that is not moved below zero can be moved unless it gets too large. -/
theorem Shift.moveBound_eq_error_iff {l : Shift} {bound : UInt32} {e : BuildError}
    (h : 0 ≤ (bound.toNat : Int) + l.offset) :
    l.moveBound bound = .error e ↔
      4294967295 < (bound.toNat : Int) + l.offset ∧ e = .shiftOverflow bound.toNat l.offset := by
  have hsize : (UInt32.size : Int) = 4294967296 := rfl
  by_cases hfits : (bound.toNat : Int) + l.offset < UInt32.size
  · obtain ⟨moved, hmoved⟩ := exists_word h hfits
    rw [moveBound_eq_ok_iff.2 hmoved]
    exact iff_of_false nofun fun hlarge => by omega
  · have hnot : ¬ (0 ≤ sum bound.toNat l.offset ∧ sum bound.toNat l.offset < UInt32.size) := by
      rintro ⟨hlow, hhigh⟩
      obtain ⟨moved, hmoved⟩ := exists_word hlow hhigh
      have hsum := (l.sum_offset_iff bound.toNat_lt moved.toNat_lt).1 hmoved.symm
      have hword : moved.toNat < UInt32.size := moved.toNat_lt
      omega
    unfold moveBound
    dsimp only
    rw [if_neg hnot, Except.error.injEq, eq_comm, iff_and_self]
    intro _
    omega

/-- A shift can be inverted unless one of its ends cannot be moved, the start being tried first. -/
theorem Shift.inverse_eq_error_iff {l : Shift} {e : BuildError} :
    l.inverse = .error e ↔
      4294967295 < (l.start.toNat : Int) + l.offset ∧ e = .shiftOverflow l.start.toNat l.offset ∨
        (l.start.toNat : Int) + l.offset ≤ 4294967295 ∧
          4294967295 < (l.finish.toNat : Int) + l.offset ∧
          e = .shiftOverflow l.finish.toNat l.offset := by
  have hordered := l.ordered
  have hnonneg := l.startsAtLeastZero
  have hstart (e : BuildError) := moveBound_eq_error_iff (e := e) hnonneg
  have hfinish (e : BuildError) := moveBound_eq_error_iff (e := e)
    (show 0 ≤ (l.finish.toNat : Int) + l.offset by omega)
  have hfits {bound moved : UInt32} (h : l.moveBound bound = .ok moved) :
      (bound.toNat : Int) + l.offset ≤ 4294967295 := by
    have hmoved := moveBound_eq_ok_iff.1 h
    have hword := moved.toNat_lt
    omega
  unfold inverse
  split
  · rename_i e' hs
    obtain ⟨hlarge, rfl⟩ := (hstart e').1 hs
    rw [Except.error.injEq]
    constructor
    · rintro rfl
      exact .inl ⟨hlarge, rfl⟩
    · rintro (⟨-, rfl⟩ | ⟨hsmall, -⟩)
      · rfl
      · omega
  · rename_i e' hs hf
    obtain ⟨hlarge, rfl⟩ := (hfinish e').1 hf
    have hsmall := hfits hs
    rw [Except.error.injEq]
    constructor
    · rintro rfl
      exact .inr ⟨hsmall, hlarge, rfl⟩
    · rintro (⟨hlarge', -⟩ | ⟨-, -, rfl⟩)
      · omega
      · rfl
  · rename_i hs hf
    have hsmall := hfits hs
    have hsmall' := hfits hf
    refine iff_of_false nofun ?_
    rintro (⟨hlarge, -⟩ | ⟨-, hlarge, -⟩)
    · omega
    · omega

/-- An offset whose ends are in order and whose start is not moved below zero makes a shift. -/
theorem OffsetSpec.exists_make {s : OffsetSpec} (hordered : s.start.toNat ≤ s.finish.toNat)
    (hzero : 0 ≤ Shift.sum s.start.toNat s.offset.toInt) :
    ∃ l, Shift.make s.start s.finish s.offset.toInt = .ok l := by
  obtain ⟨hlow, hhigh⟩ := s.sum_nonneg_iff.1 hzero
  exact ⟨_, Shift.make_self ⟨s.start, s.finish, s.offset.toInt, hordered, hlow, hhigh⟩⟩

/-- What is wrong with a swapped offset that could be made is what keeps it from being inverted. -/
theorem OffsetSpec.makeInverse_eq_error_iff {s : OffsetSpec} {e : BuildError}
    (hordered : s.start.toNat ≤ s.finish.toNat)
    (hzero : 0 ≤ Shift.sum s.start.toNat s.offset.toInt) :
    Shift.makeInverse s.start s.finish s.offset.toInt = .error e ↔ s.fault? true = some e := by
  obtain ⟨l, hmake⟩ := exists_make hordered hzero
  obtain ⟨hstart, hfinish, hoffset⟩ := Shift.make_ok hmake
  have hinverse : Shift.makeInverse s.start s.finish s.offset.toInt = l.inverse := by
    rw [Shift.makeInverse, hmake]
    rfl
  rw [hinverse, Shift.inverse_eq_error_iff, hstart, hfinish, hoffset]
  unfold fault?
  dsimp only
  rw [if_neg (by omega), if_neg (by omega)]
  simp only [true_and]
  split
  · rename_i hlarge
    rw [Option.some.injEq, and_iff_right hlarge, eq_comm, or_iff_left]
    rintro ⟨hsmall, -⟩
    omega
  · rename_i hsmall
    rw [or_iff_right fun h => hsmall h.1, and_iff_right (Int.not_lt.1 hsmall)]
    split
    · rename_i hlarge
      rw [Option.some.injEq, and_iff_right hlarge, eq_comm]
    · rename_i hsmall'
      exact iff_of_false (fun h => hsmall' h.1) nofun

/-- A swapped shift is made before it is inverted. -/
theorem OffsetSpec.shift_of_make_error {swapped : Bool} {s : OffsetSpec} {e : BuildError}
    (h : Shift.make s.start s.finish s.offset.toInt = .error e) : s.shift swapped = .error e := by
  unfold shift Shift.makeInverse
  rw [h]
  cases swapped <;> rfl

/-- **The shift of an offset fails with what is wrong with the offset.** -/
theorem OffsetSpec.shift_eq_error_iff {swapped : Bool} {s : OffsetSpec} {e : BuildError} :
    s.shift swapped = .error e ↔ s.fault? swapped = some e := by
  by_cases hordered : s.start.toNat ≤ s.finish.toNat
  · by_cases hzero : 0 ≤ Shift.sum s.start.toNat s.offset.toInt
    · cases swapped with
      | true => exact makeInverse_eq_error_iff hordered hzero
      | false =>
        have hvalid : s.fault? false = none := fault?_eq_none_iff.2 ⟨hordered, hzero, nofun⟩
        obtain ⟨l, hmake⟩ := exists_make hordered hzero
        rw [hvalid, shift, if_neg Bool.false_ne_true, hmake]
        exact iff_of_false nofun nofun
    · have hmake : Shift.make s.start s.finish s.offset.toInt =
          .error (.negativeStart s.start.toNat s.offset.toInt) := by
        rw [Shift.make, dif_pos hordered, dif_neg fun h => hzero (s.sum_nonneg_iff.2 h)]
      have hfault : s.fault? swapped = some (.negativeStart s.start.toNat s.offset.toInt) := by
        unfold fault?
        rw [if_neg (by omega), if_pos (by omega)]
      rw [shift_of_make_error hmake, hfault, Except.error.injEq, Option.some.injEq]
  · have hmake : Shift.make s.start s.finish s.offset.toInt =
        .error (.startAfterEnd s.start.toNat s.finish.toNat) := by
      rw [Shift.make, dif_neg hordered]
    have hfault : s.fault? swapped = some (.startAfterEnd s.start.toNat s.finish.toNat) := by
      unfold fault?
      rw [if_pos (by omega)]
    rw [shift_of_make_error hmake, hfault, Except.error.injEq, Option.some.injEq]

theorem RangeSpec.make_eq_error_iff {s : RangeSpec} {e : BuildError} :
    IntervalMap.make (s.bounds.map (·.toNat)) s.values = .error e ↔ s.fault? = some e := by
  unfold IntervalMap.make fault?
  split
  · rename_i hcheck
    refine iff_of_false nofun fun h => ?_
    rw [hcheck] at h
    cases h
  · rename_i e' hcheck
    rw [hcheck, Except.error.injEq, Option.some.injEq]

/-! ## 3. What a rule writes and is warned about -/

/-- Whether a rule lists no alternatives. -/
def Rule.listsNothing : Rule → Bool
  | char _ value => value.isEmpty
  | offset _ spec => spec.isEmpty
  | range _ spec => spec.isEmpty
  | pattern _ spec => spec.isEmpty

/-- Whether rules of a kind cannot be swapped. -/
def RuleKind.isOneWay : RuleKind → Bool
  | range => true
  | pattern => true
  | _ => false

/-- Nothing is taken of a rule: it lists no alternatives, or it is swapped and cannot be. -/
def PlacedRule.Skipped (r : PlacedRule) : Prop :=
  r.rule.listsNothing = true ∨ r.swapped = true ∧ r.rule.kind.isOneWay = true

namespace PlacedRule

/-- What a rule writes to the head, in its order: the alternative taken under its key or, swapped,
its key under each alternative that is not empty. -/
def writes (alternate : Nat) (r : PlacedRule) : List (String × String) :=
  match r.rule with
  | .char key value =>
    if r.swapped then
      if key = "" then [] else (value.all.filter (· ≠ "")).map fun alternative => (alternative, key)
    else (value.pick alternate).toList.map fun picked => (key, picked)
  | _ => []

end PlacedRule

/-- What a rule is warned about: that it lists no alternatives, that it is swapped and of a kind
that cannot be, or each deletion among its alternatives. -/
def SourcedRule.warnings (r : SourcedRule) : List RuleWarning :=
  match r.rule with
  | .char key value =>
    if value.isEmpty then [.noAlternatives r.set key]
    else if r.swapped then
      if key = "" then [.swappedDefault r.set]
      else (value.all.filter (· = "")).map fun _ => .swappedDeletion r.set key
    else []
  | .offset name spec => if spec.isEmpty then [.noAlternatives r.set name] else []
  | .range name spec =>
    if r.swapped then [.swappedRange r.set name]
    else if spec.isEmpty then [.noAlternatives r.set name]
    else []
  | .pattern name spec =>
    if r.swapped then [.swappedPattern r.set name]
    else if spec.isEmpty then [.noAlternatives r.set name]
    else []

/-- A write as an entry of the head. -/
def headEntry (write : String × String) : Dictionary.Key × String := (.ofString write.1, write.2)

/-- The set of a rule that writes to a key. -/
def SourcedRule.writer? (alternate : Nat) (key : String) (r : SourcedRule) : Option String :=
  if key ∈ (r.writes alternate).map (·.1) then some r.set else none

/-- What a layer is warned about: its older spelling, and its rules in their order. -/
def RuleSet.warnings (layer : RuleSet) : List RuleWarning :=
  (if layer.metadata.usesOlderSpelling then [.olderSpelling layer.name] else []) ++
    layer.sourced.flatMap SourcedRule.warnings

theorem Alternatives.pick_eq_none_iff {α : Type} {a : Alternatives α} {n : Nat} :
    a.pick n = none ↔ a.isEmpty = true := by
  unfold isEmpty
  rw [List.isEmpty_iff]
  constructor
  · exact all_of_pick_eq_none
  · intro h
    cases a with
    | one value => cases h
    | many values =>
      obtain rfl : values = [] := h
      rfl

theorem Alternatives.isEmpty_of_pick {α : Type} {a : Alternatives α} {n : Nat} {picked : α}
    (h : a.pick n = some picked) : a.isEmpty = false :=
  Bool.eq_false_iff.2 fun he => by
    rw [pick_eq_none_iff.2 he] at h
    cases h

section AnyEngine

variable [Regex.Engine]

/-! ## 4. What is wrong with a rule -/

/-- The engine takes the pattern. -/
def PatternSpec.Valid (s : PatternSpec) : Prop :=
  ∃ regex : Regex, Regex.Engine.compile? s.pattern = some regex

/-- **What is taken of a rule can be used.** Nothing is said about alternatives that are not taken,
nor about rules of which nothing is. -/
structure PlacedRule.Valid (alternate : Nat) (r : PlacedRule) : Prop where
  offset : ∀ s, r.offset? alternate = some s → s.Valid r.swapped
  range : ∀ s, r.range? alternate = some s → s.Valid
  pattern : ∀ s, r.pattern? alternate = some s → s.Valid

/-- **What is wrong with a rule**, under the name of its set and its own. -/
def SourcedRule.fault? (alternate : Nat) (r : SourcedRule) : Option RuleError :=
  match r.rule with
  | .char _ _ => none
  | .offset name _ =>
    (r.offset? alternate).bind fun s => (s.fault? r.swapped).map (.build r.set name)
  | .range name _ => (r.range? alternate).bind fun s => s.fault?.map (.build r.set name)
  | .pattern name _ => (r.pattern? alternate).bind fun s =>
    if (Regex.Engine.compile? s.pattern).isSome then none else some (.pattern r.set name)

/-- **Nothing is wrong with a rule exactly if what is taken of it can be used.** -/
theorem SourcedRule.fault?_eq_none_iff {alternate : Nat} {r : SourcedRule} :
    r.fault? alternate = none ↔ r.Valid alternate := by
  obtain ⟨⟨swapped, rule⟩, set⟩ := r
  unfold fault?
  cases rule with
  | char key value => exact iff_of_true rfl ⟨nofun, nofun, nofun⟩
  | offset name spec =>
    simp only [Option.bind_eq_none_iff, Option.map_eq_none_iff, OffsetSpec.fault?_eq_none_iff]
    exact ⟨fun h => ⟨h, nofun, nofun⟩, fun h => h.offset⟩
  | range name spec =>
    simp only [Option.bind_eq_none_iff, Option.map_eq_none_iff, RangeSpec.fault?_eq_none_iff]
    exact ⟨fun h => ⟨nofun, h, nofun⟩, fun h => h.range⟩
  | pattern name spec =>
    have hcompiles (s : PatternSpec) : (if (Regex.Engine.compile? s.pattern).isSome then none
        else some (RuleError.pattern set name)) = none ↔ s.Valid := by
      rw [PatternSpec.Valid, ← Option.isSome_iff_exists, ite_eq_left_iff]
      simp only [reduceCtorEq, imp_false, Decidable.not_not]
    simp only [Option.bind_eq_none_iff, hcompiles]
    exact ⟨fun h => ⟨nofun, nofun, h⟩, fun h => h.pattern⟩

/-- Nothing is wrong with the rules of which everything that is taken can be used. -/
theorem findSome?_fault?_eq_none_iff {alternate : Nat} {rules : List SourcedRule} :
    rules.findSome? (SourcedRule.fault? alternate) = none ↔ ∀ r ∈ rules, r.Valid alternate := by
  simp only [List.findSome?_eq_none_iff, SourcedRule.fault?_eq_none_iff]

/-- Whether a rule can be used can be decided. -/
instance (alternate : Nat) (r : PlacedRule) : Decidable (r.Valid alternate) :=
  decidable_of_iff (SourcedRule.fault? alternate ⟨r, ""⟩ = none) SourcedRule.fault?_eq_none_iff

/-- Of a rule that is skipped nothing is taken, so nothing is wrong with it. -/
theorem PlacedRule.Skipped.valid {r : PlacedRule} (h : r.Skipped) (alternate : Nat) :
    r.Valid alternate := by
  obtain ⟨swapped, rule⟩ := r
  cases rule with
  | char key value => exact ⟨nofun, nofun, nofun⟩
  | offset name spec =>
    have hlists : spec.isEmpty = true := h.resolve_right fun hs => nomatch hs.2
    have hnone : spec.pick alternate = none := Alternatives.pick_eq_none_iff.2 hlists
    exact ⟨fun s hs => (nomatch hnone.symm.trans hs), nofun, nofun⟩
  | range name spec =>
    have hnone : range? alternate ⟨swapped, .range name spec⟩ = none :=
      ite_eq_left_iff.2 fun hplain =>
        Alternatives.pick_eq_none_iff.2 (h.resolve_right fun hs => hplain hs.1)
    exact ⟨nofun, fun s hs => (nomatch hnone.symm.trans hs), nofun⟩
  | pattern name spec =>
    have hnone : pattern? alternate ⟨swapped, .pattern name spec⟩ = none :=
      ite_eq_left_iff.2 fun hplain =>
        Alternatives.pick_eq_none_iff.2 (h.resolve_right fun hs => hplain hs.1)
    exact ⟨nofun, nofun, fun s hs => (nomatch hnone.symm.trans hs)⟩

/-! ## 5. What a rule adds to the tail -/

namespace PlacedRule

/-- What a rule adds to the tail. -/
def tailRule? (alternate : Nat) (r : PlacedRule) : Option TailRule :=
  match r.rule with
  | .char _ _ => none
  | .offset _ _ => (r.offset? alternate).bind fun s => (s.shift r.swapped).toOption.map .shift
  | .range _ _ => (r.range? alternate).bind fun s =>
    (IntervalMap.make (s.bounds.map (·.toNat)) s.values).toOption.map fun t =>
      .intervals (t.withFilling true)
  | .pattern _ _ => (r.pattern? alternate).bind fun s =>
    (Substitution.make? s.pattern s.replacement).map .substitution

variable {alternate : Nat} {r : PlacedRule}

/-- A rule becomes the shift of the offset that is taken of it. -/
theorem tailRule?_eq_shift_iff {l : Shift} :
    r.tailRule? alternate = some (.shift l) ↔
      ∃ s, r.offset? alternate = some s ∧ s.shift r.swapped = .ok l := by
  obtain ⟨swapped, rule⟩ := r
  cases rule with
  | char | range | pattern =>
    simp [tailRule?, offset?, Option.bind_eq_some_iff, Option.map_eq_some_iff]
  | offset name spec =>
    simp only [tailRule?, Option.bind_eq_some_iff, Option.map_eq_some_iff, TailRule.shift.injEq,
      exists_eq_right]
    refine exists_congr fun s => and_congr_right fun _ => ?_
    cases s.shift swapped <;> simp [Except.toOption]

/-- A rule becomes the interval map of the range that is taken of it. -/
theorem tailRule?_eq_intervals_iff {t : IntervalMap String} :
    r.tailRule? alternate = some (.intervals t) ↔ ∃ s t', r.range? alternate = some s ∧
      IntervalMap.make (s.bounds.map (·.toNat)) s.values = .ok t' ∧ t'.withFilling true = t := by
  obtain ⟨swapped, rule⟩ := r
  cases rule with
  | char | offset | pattern =>
    simp [tailRule?, range?, Option.bind_eq_some_iff, Option.map_eq_some_iff]
  | range name spec =>
    simp only [tailRule?, Option.bind_eq_some_iff, Option.map_eq_some_iff,
      TailRule.intervals.injEq]
    refine exists_congr fun s => ?_
    rw [exists_and_left]
    refine and_congr_right fun _ => exists_congr fun t' => and_congr_left fun _ => ?_
    cases IntervalMap.make (s.bounds.map (·.toNat)) s.values <;> simp [Except.toOption]

/-- A rule becomes the substitution of the pattern that is taken of it. -/
theorem tailRule?_eq_substitution_iff {p : Substitution} :
    r.tailRule? alternate = some (.substitution p) ↔
      ∃ s, r.pattern? alternate = some s ∧ Substitution.make? s.pattern s.replacement = some p := by
  obtain ⟨swapped, rule⟩ := r
  cases rule with
  | char | offset | range =>
    simp [tailRule?, pattern?, Option.bind_eq_some_iff, Option.map_eq_some_iff]
  | pattern name spec =>
    simp only [tailRule?, Option.bind_eq_some_iff, Option.map_eq_some_iff,
      TailRule.substitution.injEq, exists_eq_right]

end PlacedRule

theorem PatternSpec.make?_eq_none_iff {s : PatternSpec} :
    Substitution.make? s.pattern s.replacement = none ↔ Regex.Engine.compile? s.pattern = none := by
  unfold Substitution.make?
  split
  · rename_i hcompile
    refine iff_of_false nofun fun h => ?_
    rw [hcompile] at h
    cases h
  · rename_i hcompile
    exact iff_of_true rfl hcompile

namespace PlacedRule.Valid

variable {alternate : Nat} {r : PlacedRule}

/-- What is taken of a valid rule becomes a rule of the tail: a shift, -/
theorem exists_shift (h : r.Valid alternate) {s : OffsetSpec} (hs : r.offset? alternate = some s) :
    ∃ l, s.shift r.swapped = .ok l :=
  (eq_none_iff_exists_ok OffsetSpec.shift_eq_error_iff).1
    (OffsetSpec.fault?_eq_none_iff.2 (h.offset s hs))

/-- an interval map, -/
theorem exists_map (h : r.Valid alternate) {s : RangeSpec} (hs : r.range? alternate = some s) :
    ∃ t, IntervalMap.make (s.bounds.map (·.toNat)) s.values = .ok t :=
  (eq_none_iff_exists_ok RangeSpec.make_eq_error_iff).1
    (RangeSpec.fault?_eq_none_iff.2 (h.range s hs))

/-- or a substitution. -/
theorem exists_substitution (h : r.Valid alternate) {s : PatternSpec}
    (hs : r.pattern? alternate = some s) :
    ∃ p, Substitution.make? s.pattern s.replacement = some p := by
  obtain ⟨regex, hregex⟩ := h.pattern s hs
  cases hmake : Substitution.make? s.pattern s.replacement with
  | some p => exact ⟨p, rfl⟩
  | none => cases hregex.symm.trans (PatternSpec.make?_eq_none_iff.1 hmake)

end PlacedRule.Valid

end AnyEngine

end Lettering
