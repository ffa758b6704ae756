import Lettering.Proofs.Contributing

/-!
# Drafts rule by rule

Adding a rule to a draft is a checked step: either something is wrong with the rule, or the draft
receives what the rule contributes.

* `Draft.addRule_eq`, `Draft.addLayer_eq` and `Draft.addLayers_eq`: a rule, a layer and a row of
  layers as checked steps.
* `Draft.holds_draftOf` and `Draft.warnings_draftOf`: what is in the draft of some layers, rule by
  rule.
-/

namespace Lettering

namespace Draft

/-! ## 1. Origins -/

/-- The origins after a row of writes by one set. -/
def signed (set : String) (origins : Std.ExtTreeMap String String)
    (writes : List (String × String)) : Std.ExtTreeMap String String :=
  writes.foldl (fun o write => if 1 < write.1.length then o.insert write.1 set else o) origins

theorem getElem?_signed (set : String) (origins : Std.ExtTreeMap String String)
    (writes : List (String × String)) {key : String} (h : 1 < key.length) :
    (signed set origins writes)[key]? =
      (if key ∈ writes.map (·.1) then some set else none).or origins[key]? := by
  unfold signed
  induction writes generalizing origins with
  | nil => rfl
  | cons write writes ih =>
    have hone : (if 1 < write.1.length then origins.insert write.1 set else origins)[key]? =
        if key = write.1 then some set else origins[key]? := by
      by_cases hkey : key = write.1
      · subst hkey
        rw [if_pos h, if_pos rfl, Std.ExtTreeMap.getElem?_insert_self]
      · rw [if_neg hkey]
        split
        · simp [Std.ExtTreeMap.getElem?_insert, Ne.symm hkey]
        · rfl
    rw [List.foldl_cons, ih, hone, List.map_cons]
    by_cases hlater : key ∈ writes.map (·.1)
    · rw [if_pos hlater, if_pos (List.mem_cons_of_mem _ hlater), Option.some_or, Option.some_or]
    · by_cases hkey : key = write.1
      · rw [if_neg hlater, if_pos hkey, if_pos (List.mem_cons.2 (.inl hkey)), Option.none_or,
          Option.some_or]
      · rw [if_neg hlater, if_neg hkey, if_neg (List.not_mem_cons_of_ne_of_not_mem hkey hlater)]

variable [Regex.Engine]

/-! ## 2. One rule -/

/-- The draft with what a rule contributes. -/
def receive (alternate : Nat) (d : Draft) (r : SourcedRule) : Draft where
  head := d.head.insertMany ((r.writes alternate).map headEntry)
  tail := d.tail ++ (r.tailRule? alternate).toList
  warnings := d.warnings ++ r.warnings
  origins := signed r.set d.origins (r.writes alternate)

variable {alternate : Nat} {set : String} {swapped : Bool} {d : Draft}

/-- A rule of which nothing is taken leaves a warning. -/
theorem receive_warned {r : SourcedRule} {w : RuleWarning} (hwrites : r.writes alternate = [])
    (htail : r.tailRule? alternate = none) (hwarned : r.warnings = [w]) :
    d.receive alternate r = d.warn w := by
  unfold receive warn
  rw [hwrites, htail, hwarned, Option.toList_none, List.append_nil]
  rfl

/-- A rule that is taken into the tail leaves no warning. -/
theorem receive_pushed {r : SourcedRule} {l : TailRule} (hwrites : r.writes alternate = [])
    (htail : r.tailRule? alternate = some l) (hwarned : r.warnings = []) :
    d.receive alternate r = d.push l := by
  unfold receive push
  rw [hwrites, htail, hwarned, Option.toList_some, List.append_nil]
  rfl

theorem addOffset_eq (name : String) (spec : Alternatives OffsetSpec) :
    d.addOffset set swapped alternate name spec =
      checked (SourcedRule.fault? alternate ⟨⟨swapped, .offset name spec⟩, set⟩)
        (d.receive alternate ⟨⟨swapped, .offset name spec⟩, set⟩) := by
  unfold addOffset SourcedRule.fault? PlacedRule.offset?
  dsimp only
  cases hpick : spec.pick alternate with
  | none =>
    have hempty := Alternatives.pick_eq_none_iff.1 hpick
    rw [receive_warned rfl]
    · rfl
    · simp [PlacedRule.tailRule?, PlacedRule.offset?, hpick]
    · simp [SourcedRule.warnings, hempty]
  | some s =>
    have hempty := Alternatives.isEmpty_of_pick hpick
    rw [Option.bind_some]
    have hmade : (if swapped = true then Shift.makeInverse s.start s.finish s.offset.toInt
      else Shift.make s.start s.finish s.offset.toInt) = s.shift swapped := rfl
    dsimp only
    rw [hmade]
    cases hshift : s.shift swapped with
    | error e =>
      rw [OffsetSpec.shift_eq_error_iff.1 hshift]
      rfl
    | ok l =>
      have hvalid : s.fault? swapped = none :=
        (eq_none_iff_exists_ok OffsetSpec.shift_eq_error_iff).2 ⟨l, hshift⟩
      rw [hvalid, receive_pushed (l := .shift l) rfl]
      · rfl
      · simp [PlacedRule.tailRule?, PlacedRule.offset?, hpick, hshift, Except.toOption]
      · simp [SourcedRule.warnings, hempty]

theorem addRange_eq (name : String) (spec : Alternatives RangeSpec) :
    d.addRange set swapped alternate name spec =
      checked (SourcedRule.fault? alternate ⟨⟨swapped, .range name spec⟩, set⟩)
        (d.receive alternate ⟨⟨swapped, .range name spec⟩, set⟩) := by
  unfold addRange SourcedRule.fault? PlacedRule.range?
  dsimp only
  cases swapped with
  | true =>
    rw [receive_warned rfl rfl rfl]
    rfl
  | false =>
    rw [if_neg Bool.false_ne_true, if_neg Bool.false_ne_true]
    cases hpick : spec.pick alternate with
    | none =>
      have hempty := Alternatives.pick_eq_none_iff.1 hpick
      rw [receive_warned rfl]
      · rfl
      · simp [PlacedRule.tailRule?, PlacedRule.range?, hpick]
      · simp [SourcedRule.warnings, hempty]
    | some s =>
      have hempty := Alternatives.isEmpty_of_pick hpick
      rw [Option.bind_some]
      dsimp only
      cases hmake : IntervalMap.make (s.bounds.map (·.toNat)) s.values with
      | error e =>
        rw [RangeSpec.make_eq_error_iff.1 hmake]
        rfl
      | ok t =>
        have hvalid : s.fault? = none :=
          (eq_none_iff_exists_ok RangeSpec.make_eq_error_iff).2 ⟨t, hmake⟩
        rw [hvalid, receive_pushed (l := .intervals (t.withFilling true)) rfl]
        · rfl
        · simp [PlacedRule.tailRule?, PlacedRule.range?, hpick, hmake, Except.toOption]
        · simp [SourcedRule.warnings, hempty]

theorem addPattern_eq (name : String) (spec : Alternatives PatternSpec) :
    d.addPattern set swapped alternate name spec =
      checked (SourcedRule.fault? alternate ⟨⟨swapped, .pattern name spec⟩, set⟩)
        (d.receive alternate ⟨⟨swapped, .pattern name spec⟩, set⟩) := by
  unfold addPattern SourcedRule.fault? PlacedRule.pattern?
  dsimp only
  cases swapped with
  | true =>
    rw [receive_warned rfl rfl rfl]
    rfl
  | false =>
    rw [if_neg Bool.false_ne_true, if_neg Bool.false_ne_true]
    cases hpick : spec.pick alternate with
    | none =>
      have hempty := Alternatives.pick_eq_none_iff.1 hpick
      rw [receive_warned rfl]
      · rfl
      · simp [PlacedRule.tailRule?, PlacedRule.pattern?, hpick]
      · simp [SourcedRule.warnings, hempty]
    | some s =>
      have hempty := Alternatives.isEmpty_of_pick hpick
      rw [Option.bind_some]
      dsimp only
      cases hmake : Substitution.make? s.pattern s.replacement with
      | none =>
        rw [PatternSpec.make?_eq_none_iff.1 hmake]
        rfl
      | some p =>
        have hcompiles : (Regex.Engine.compile? s.pattern).isSome = true :=
          Option.isSome_iff_ne_none.2 fun hnone => by
            cases hmake.symm.trans (PatternSpec.make?_eq_none_iff.2 hnone)
        rw [if_pos hcompiles, receive_pushed (l := .substitution p) rfl]
        · rfl
        · simp [PlacedRule.tailRule?, PlacedRule.pattern?, hpick, hmake]
        · simp [SourcedRule.warnings, hempty]

/-- Written back, the alternatives that are not empty become entries, and the others warnings. -/
theorem writeSwapped_eq (d : Draft) (set key : String) (alternatives : List String) :
    d.writeSwapped set key alternatives =
      let written := (alternatives.filter (· ≠ "")).map fun alternative => (alternative, key)
      { head := d.head.insertMany (written.map headEntry)
        tail := d.tail
        warnings := d.warnings ++
          (alternatives.filter (· = "")).map fun _ => RuleWarning.swappedDeletion set key
        origins := signed set d.origins written } := by
  induction alternatives generalizing d with
  | nil =>
    simp only [writeSwapped, List.foldl_nil, List.filter_nil, List.map_nil, List.append_nil]
    rfl
  | cons alternative alternatives ih =>
    have hstep : d.writeSwapped set key (alternative :: alternatives) =
        (if alternative.isEmpty then d.warn (.swappedDeletion set key)
          else d.write set alternative key).writeSwapped set key alternatives := rfl
    rw [hstep, ih]
    by_cases hempty : alternative = ""
    · subst hempty
      simp [warn]
    · rw [if_neg fun h => hempty (String.isEmpty_iff.1 h)]
      simp only [List.filter_cons, hempty, decide_false, decide_true, ne_eq, not_false_eq_true,
        ↓reduceIte, Bool.false_eq_true, List.map_cons]
      rfl

theorem addChar_eq (key : String) (value : Alternatives String) :
    d.addChar set swapped alternate key value =
      d.receive alternate ⟨⟨swapped, .char key value⟩, set⟩ := by
  unfold addChar
  cases hpick : value.pick alternate with
  | none =>
    have hempty := Alternatives.pick_eq_none_iff.1 hpick
    have hall := Alternatives.all_of_pick_eq_none hpick
    rw [receive_warned]
    · cases swapped <;> simp [PlacedRule.writes, hpick, hall]
    · rfl
    · simp [SourcedRule.warnings, hempty]
  | some picked =>
    have hempty := Alternatives.isEmpty_of_pick hpick
    dsimp only
    cases swapped with
    | false =>
      simp only [Bool.not_false, ↓reduceIte, receive, PlacedRule.writes, PlacedRule.tailRule?,
        SourcedRule.warnings, hpick, hempty, Bool.false_eq_true, Option.toList_some,
        Option.toList_none, List.map_cons, List.map_nil, List.append_nil]
      rfl
    | true =>
      simp only [Bool.not_true, Bool.false_eq_true, ↓reduceIte]
      by_cases hkey : key = ""
      · subst hkey
        rw [receive_warned rfl rfl]
        · rfl
        · simp [SourcedRule.warnings, hempty]
      · rw [if_neg fun h => hkey (String.isEmpty_iff.1 h), writeSwapped_eq]
        simp only [receive, PlacedRule.writes, PlacedRule.tailRule?, SourcedRule.warnings, hempty,
          hkey, Bool.false_eq_true, ↓reduceIte, Option.toList_none, List.append_nil]

/-- **Adding a rule is a checked step**, whatever its kind. -/
theorem addRule_eq (d : Draft) (rule : Rule) :
    addRule set swapped alternate d rule =
      checked (SourcedRule.fault? alternate ⟨⟨swapped, rule⟩, set⟩)
        (d.receive alternate ⟨⟨swapped, rule⟩, set⟩) := by
  cases rule with
  | char key value => exact congrArg Except.ok (addChar_eq key value)
  | offset name spec => exact addOffset_eq name spec
  | range name spec => exact addRange_eq name spec
  | pattern name spec => exact addPattern_eq name spec

/-! ## 3. Layers -/

/-- The draft with what a layer contributes: the warning of its older spelling and its rules. -/
def receiveLayer (alternate : Nat) (d : Draft) (layer : RuleSet) : Draft :=
  layer.sourced.foldl (receive alternate)
    (if layer.metadata.usesOlderSpelling then d.warn (.olderSpelling layer.name) else d)

theorem addLayer_eq (d : Draft) (layer : RuleSet) :
    d.addLayer alternate layer =
      checked (layer.sourced.findSome? (SourcedRule.fault? alternate))
        (d.receiveLayer alternate layer) := by
  unfold addLayer receiveLayer RuleSet.sourced
  rw [foldlM_checked (@addRule_eq _ alternate _ _), List.findSome?_map, List.foldl_map]
  rfl

/-- The draft of some layers. -/
def draftOf (alternate : Nat) (layers : List RuleSet) : Draft :=
  layers.foldl (receiveLayer alternate) empty

/-- **Adding layers fails with what is wrong with the first rule that something is wrong with**, and
else gives what the layers contribute. -/
theorem addLayers_eq (alternate : Nat) (layers : List RuleSet) :
    addLayers alternate layers =
      checked ((sourcedRules layers).findSome? (SourcedRule.fault? alternate))
        (draftOf alternate layers) := by
  unfold addLayers draftOf sourcedRules
  rw [foldlM_checked addLayer_eq, findSome?_flatMap]

theorem addLayers_eq_ok_iff {layers : List RuleSet} :
    addLayers alternate layers = .ok d ↔
      (∀ r ∈ sourcedRules layers, r.Valid alternate) ∧ draftOf alternate layers = d := by
  rw [addLayers_eq, checked_eq_ok_iff, findSome?_fault?_eq_none_iff]

/-! ## 4. What is in a draft -/

/-- A draft holds what some rules contribute to its head and its tail, and knows for each key of
several characters which set has written it last. -/
structure Holds (alternate : Nat) (rules : List SourcedRule) (d : Draft) : Prop where
  head : d.head = .ofList (rules.flatMap fun r => (r.writes alternate).map headEntry)
  tail : d.tail = rules.filterMap fun r => r.tailRule? alternate
  origin : ∀ key : String, 1 < key.length →
    d.origins[key]? = lastAnswer? (SourcedRule.writer? alternate key) rules

theorem Holds.empty : Holds alternate [] Draft.empty := by
  refine ⟨rfl, rfl, fun key _ => ?_⟩
  simp [Draft.empty]

theorem Holds.receive {rules : List SourcedRule} {d : Draft} (h : Holds alternate rules d)
    (r : SourcedRule) : Holds alternate (rules ++ [r]) (d.receive alternate r) where
  head := by
    simp only [Draft.receive, h.head, List.flatMap_append, List.flatMap_cons, List.flatMap_nil,
      List.append_nil]
    exact List.foldl_append.symm
  tail := by
    rw [Draft.receive, h.tail, List.filterMap_append, List.filterMap_cons, List.filterMap_nil]
    cases r.tailRule? alternate <;> rfl
  origin key hkey := by
    rw [lastAnswer?_concat, ← h.origin key hkey]
    exact getElem?_signed r.set d.origins (r.writes alternate) hkey

theorem Holds.receiveLayer {rules : List SourcedRule} {d : Draft} (h : Holds alternate rules d)
    (layer : RuleSet) :
    Holds alternate (rules ++ layer.sourced) (d.receiveLayer alternate layer) := by
  have hstart : Holds alternate rules
      (if layer.metadata.usesOlderSpelling then d.warn (.olderSpelling layer.name) else d) := by
    split
    · exact ⟨h.head, h.tail, h.origin⟩
    · exact h
  have hrun := foldl_collects (P := Holds alternate) (fun r => [r])
    (fun r hd => hd.receive r) hstart layer.sourced
  rwa [List.flatMap_singleton'] at hrun

/-- **The draft of some layers holds what their rules contribute**, in their order. -/
theorem holds_draftOf (alternate : Nat) (layers : List RuleSet) :
    Holds alternate (sourcedRules layers) (draftOf alternate layers) := by
  have hrun := foldl_collects (P := Holds alternate) RuleSet.sourced
    (fun layer hd => hd.receiveLayer layer) Holds.empty layers
  rwa [List.nil_append] at hrun

theorem warnings_receiveLayer (d : Draft) (layer : RuleSet) :
    (d.receiveLayer alternate layer).warnings = d.warnings ++ layer.warnings := by
  unfold receiveLayer RuleSet.warnings
  rw [← List.append_assoc]
  refine foldl_collects (P := fun ws (d : Draft) => d.warnings = ws) SourcedRule.warnings ?_ ?_ _
  · rintro done d r rfl
    rfl
  · split
    · rfl
    · exact (List.append_nil _).symm

/-- **The warnings of a draft are those of its layers**, in their order. -/
theorem warnings_draftOf (alternate : Nat) (layers : List RuleSet) :
    (draftOf alternate layers).warnings = layers.flatMap RuleSet.warnings := by
  have hstep {ws : List RuleWarning} {d : Draft} (layer : RuleSet) (h : d.warnings = ws) :
      (d.receiveLayer alternate layer).warnings = ws ++ layer.warnings := by
    rw [warnings_receiveLayer, h]
  have hstart : empty.warnings = [] := rfl
  have hrun := foldl_collects (P := fun ws (d : Draft) => d.warnings = ws) RuleSet.warnings hstep
    hstart layers
  rwa [List.nil_append] at hrun

end Draft

end Lettering
