import Lettering.Proofs.Building
import Lettering.Proofs.LinearScan
import Lettering.Proofs.Resolving
import Lettering.Proofs.Shifting
import Lettering.Regex.Machine

/-!
# The meaning of layers

What a character becomes in a bundle of layers, read off the rules alone: the layers in order, and
the rules of a layer in their order, make one row in which what comes later counts more.

* A rule may answer a character (`PlacedRule.answer?`: offsets, and ranges where the layer is not
  swapped) or write to a key (`PlacedRule.written?`: character rules).
* `meaning`: the last answer; without one the last text written to the character; without that the
  last default; and the character itself where there is none of them.
* `Draft.Adds`: what one rule does to a draft, with one lemma for each kind of rule.
* `Draft.Reflects`: the draft holds the last answers and last writes of the rules so far. Each rule
  keeps it (`Reflects.addRule`), so a layer and a row of layers do.
* `Bundle.resolve_layered`: a bundle that is built plainly resolves as `meaning` says.
-/

namespace Lettering

/-! ## 1. Rules and their places -/

/-- A rule together with the reading that its layer gives it. -/
structure PlacedRule where
  swapped : Bool
  rule : Rule

/-- The rules of some layers in their order. -/
def placedRules (layers : List RuleSet) : List PlacedRule :=
  layers.flatMap fun layer => layer.rules.map (⟨layer.metadata.swapsEntries, ·⟩)

/-- The character at a number that a key is moved to, or what is wrong with the number. -/
def movedTo (key : Nat) (number : Int) : Except LookupError String :=
  if number < 0 then .error (.invalidResult key number)
  else if (CodePoint.max : Int) < number then .error (.outOfRange key)
  else match CodePoint.toChar? number.toNat with
    | some d => .ok (String.singleton d)
    | none => .error (.notACharacter key number.toNat)

/-- What an offset answers for a character: an interval moves by the offset and, swapped, the moved
interval moves back. The character and the offset are added as 64-bit numbers. -/
def OffsetSpec.answer? (s : OffsetSpec) (swapped : Bool) (c : Char) :
    Option (Except LookupError String) :=
  let key : Int := c.toNat
  let offset := s.offset.toInt
  if swapped then
    if s.start.toNat + offset ≤ key ∧ key ≤ s.finish.toNat + offset then
      some (movedTo c.toNat (Shift.sum c.toNat (-offset)))
    else none
  else if s.start.toNat ≤ key ∧ key ≤ s.finish.toNat then
    some (movedTo c.toNat (Shift.sum c.toNat offset))
  else none

/-- What a range answers for a character: the value of the range that holds it, with the character
in place of each marker. -/
def RangeSpec.answer? (s : RangeSpec) (c : Char) : Option (Except LookupError String) :=
  (IntervalMap.scan? (s.bounds.map (·.toNat)) s.values c.toNat).map
    fun value => .ok (Marker.withChar c value)

namespace PlacedRule

/-- What a rule answers for a character, if it does. -/
def answer? (alternate : Nat) (c : Char) (r : PlacedRule) : Option (Except LookupError String) :=
  match r.rule with
  | .offset _ spec => (spec.pick alternate).bind fun s => s.answer? r.swapped c
  | .range _ spec => if r.swapped then none else (spec.pick alternate).bind fun s => s.answer? c
  | _ => none

/-- What a rule writes to a key, if it does: the alternative taken or, swapped, its own key to
each alternative. -/
def written? (alternate : Nat) (key : String) (r : PlacedRule) : Option String :=
  match r.rule with
  | .char own value =>
    if r.swapped then if own ≠ "" ∧ key ≠ "" ∧ key ∈ value.all then some own else none
    else if own = key then value.pick alternate
    else none
  | _ => none

end PlacedRule

/-- The meaning of a character under a row of rules. -/
def meaning (alternate : Nat) (rules : List PlacedRule) (c : Char) :
    Except LookupError String :=
  (lastAnswer? (PlacedRule.answer? alternate c) rules).getD <|
    let own := lastAnswer? (PlacedRule.written? alternate (String.singleton c)) rules
    let default := lastAnswer? (PlacedRule.written? alternate "") rules
    match own.or default with
    | some value => .ok (Marker.withChar c value)
    | none => .ok (String.singleton c)

theorem Alternatives.all_of_pick_eq_none {α : Type} {a : Alternatives α} {n : Nat}
    (h : a.pick n = none) : a.all = [] := by
  cases a with
  | one value => cases h
  | many values =>
    obtain ⟨-, hhead⟩ := Option.or_eq_none_iff.1 h
    exact List.head?_eq_none_iff.1 hhead

theorem Alternatives.exists_pick {α : Type} {a : Alternatives α} (h : a.all ≠ []) (n : Nat) :
    ∃ value, a.pick n = some value := by
  cases hpick : a.pick n with
  | none => exact absurd (all_of_pick_eq_none hpick) h
  | some value => exact ⟨value, rfl⟩

/-! ## 2. Moved keys -/

/-- A key is moved to the character of the number, where there is one. -/
theorem movedTo_eq_ok_iff {key : Nat} {number : Int} {u : String} :
    movedTo key number = .ok u ↔ ∃ d : Char, u = String.singleton d ∧ (d.toNat : Int) = number := by
  constructor
  · intro h
    unfold movedTo at h
    split at h
    · cases h
    · rename_i hlow
      split at h
      · cases h
      · split at h
        · rename_i d hd
          have hnumber := CodePoint.toNat_of_toChar? hd
          exact ⟨d, (Except.ok.inj h).symm, by omega⟩
        · cases h
  · rintro ⟨d, rfl, rfl⟩
    have hmax : d.toNat ≤ CodePoint.max := by
      have hvalid := d.valid
      simp only [UInt32.isValidChar, Nat.isValidChar] at hvalid
      show d.val.toNat ≤ 0x10FFFF
      omega
    have hlow : ¬ (d.toNat : Int) < 0 := by omega
    have hhigh : ¬ (CodePoint.max : Int) < d.toNat := by omega
    rw [movedTo, if_neg hlow, if_neg hhigh, Int.toNat_natCast, CodePoint.toChar?_toNat]

theorem Shift.answer_of_covers {l : Shift} {key : Nat} (h : l.covers key = true) :
    l.answer key = movedTo key (sum key l.offset) := by
  unfold answer image movedTo
  rw [if_pos h]
  dsimp only
  split
  · rfl
  · split
    · rfl
    · cases CodePoint.toChar? (sum key l.offset).toNat <;> rfl

/-! ## 3. Rules of the tail -/

section AnyEngine

variable [Regex.Engine]

/-- A shift answers the characters of its interval with the characters they are moved to. -/
theorem TailRule.answer?_shift (l : Shift) (c : Char) :
    answer? c (.shift l) =
      if l.start.toNat ≤ c.toNat ∧ c.toNat ≤ l.finish.toNat then
        some (movedTo c.toNat (Shift.sum c.toNat l.offset))
      else none := by
  have hcov : (TailRule.shift l).covers c.toNat = true ↔
      l.start.toNat ≤ c.toNat ∧ c.toNat ≤ l.finish.toNat := by
    simp [covers, Shift.covers]
  unfold answer?
  by_cases h : l.start.toNat ≤ c.toNat ∧ c.toNat ≤ l.finish.toNat
  · rw [if_pos h, if_pos (hcov.2 h)]
    exact congrArg some (Shift.answer_of_covers (hcov.2 h))
  · rw [if_neg h, if_neg fun hc => h (hcov.1 hc)]

/-- An interval map that fills answers what scanning its ranges gives, with the character in place
of each marker. -/
theorem TailRule.answer?_intervals {t : IntervalMap String} (hf : t.fills = true) (c : Char) :
    answer? c (.intervals t) =
      (IntervalMap.scan? t.bounds t.values c.toNat).map
        fun value => .ok (Marker.withChar c value) := by
  cases hs : IntervalMap.scan? t.bounds t.values c.toNat with
  | none => exact answer?_eq_none_iff.2 (IntervalMap.scan?_eq_none_iff.1 hs)
  | some value =>
    obtain ⟨hc, ha⟩ := IntervalMap.answer_of_scan? hs
    have hp : t.present value c.toNat = Marker.withChar c value := by
      rw [IntervalMap.present, if_pos hf]
      exact Marker.filledText?_toNat value c
    unfold answer?
    rw [covers, if_pos hc, answer, ha, hp]
    rfl

theorem OffsetSpec.answer?_of_make {s : OffsetSpec} {l : Shift}
    (h : Shift.make s.start s.finish s.offset.toInt = .ok l) (c : Char) :
    s.answer? false c = TailRule.answer? c (.shift l) := by
  obtain ⟨hs, hf, ho⟩ := Shift.make_ok h
  rw [TailRule.answer?_shift, hs, hf, ho]
  simp only [answer?, Bool.false_eq_true, if_false, Int.ofNat_le]

theorem OffsetSpec.answer?_of_makeInverse {s : OffsetSpec} {l : Shift}
    (h : Shift.makeInverse s.start s.finish s.offset.toInt = .ok l) (c : Char) :
    s.answer? true c = TailRule.answer? c (.shift l) := by
  obtain ⟨hs, hf, ho⟩ := Shift.makeInverse_ok h
  rw [TailRule.answer?_shift, ho]
  simp only [answer?, if_true, ← hs, ← hf, Int.ofNat_le]

theorem RangeSpec.answer?_of_make {s : RangeSpec} {t : IntervalMap String}
    (h : IntervalMap.make (s.bounds.map (·.toNat)) s.values = .ok t) (c : Char) :
    s.answer? c = TailRule.answer? c (.intervals (t.withFilling true)) := by
  obtain ⟨hb, hv⟩ := IntervalMap.make_ok h
  rw [TailRule.answer?_intervals rfl, answer?, ← hb, ← hv]
  rfl

/-! ## 4. Keys and writes -/

namespace Draft

@[simp] theorem warn_tail (d : Draft) (w : RuleWarning) : (d.warn w).tail = d.tail := rfl

@[simp] theorem push_tail (d : Draft) (l : TailRule) : (d.push l).tail = d.tail ++ [l] := rfl

/-- The text that a draft holds under a key. -/
def held? (d : Draft) (key : String) : Option String := d.head.find? (.ofString key)

/-- Under a text of one character it is the entry of its code point. -/
theorem held?_singleton (d : Draft) (c : Char) :
    d.held? (String.singleton c) = d.head.chars[c.toNat]? := by
  have hkey : Dictionary.Key.ofString (String.singleton c) = .codePoint c.toNat :=
    Dictionary.Key.ofString_eq_codePoint_iff.2 ⟨c, rfl, rfl⟩
  rw [held?, hkey, Dictionary.find?]

/-- Under the empty text it is the default. -/
theorem held?_empty (d : Draft) : d.held? "" = d.head.fallback := rfl

theorem held?_write (d : Draft) (set key value other : String) :
    (d.write set key value).held? other =
      (if key = other then some value else none).or (d.held? other) := by
  have h := Dictionary.find?_insert d.head (.ofString key) (.ofString other) value
  simpa only [held?, write, Dictionary.writeTo?, Dictionary.Key.ofString_inj] using h

theorem writeSwapped_tail (d : Draft) (set key : String) (alternatives : List String) :
    (d.writeSwapped set key alternatives).tail = d.tail := by
  unfold writeSwapped
  induction alternatives generalizing d with
  | nil => rfl
  | cons alternative alternatives ih =>
    rw [List.foldl_cons, ih]
    split <;> rfl

/-- One alternative of a swapped rule writes to itself if it is not empty. -/
theorem held?_writeBack (d : Draft) (set key alternative other : String) :
    (if alternative.isEmpty then d.warn (.swappedDeletion set key)
      else d.write set alternative key).held? other =
      (if other ≠ "" ∧ other = alternative then some key else none).or (d.held? other) := by
  by_cases hempty : alternative = ""
  · subst hempty
    rw [if_pos (String.isEmpty_iff.2 rfl), if_neg fun h => h.1 h.2]
    rfl
  · rw [if_neg fun h => hempty (String.isEmpty_iff.1 h), held?_write]
    by_cases hown : alternative = other
    · subst hown
      rw [if_pos rfl, if_pos ⟨hempty, rfl⟩]
    · rw [if_neg hown, if_neg fun h => hown h.2.symm]

/-- Swapped, the key is written to each alternative that is not empty. -/
theorem held?_writeSwapped (d : Draft) (set key : String) (alternatives : List String)
    (other : String) :
    (d.writeSwapped set key alternatives).held? other =
      (if other ≠ "" ∧ other ∈ alternatives then some key else none).or (d.held? other) := by
  unfold writeSwapped
  induction alternatives generalizing d with
  | nil => simp
  | cons alternative alternatives ih =>
    rw [List.foldl_cons, ih, held?_writeBack]
    by_cases hempty : other = ""
    · simp [hempty]
    · by_cases hlater : other ∈ alternatives
      · simp [hempty, hlater]
      · simp [hempty, hlater]

end Draft

/-! ## 5. One rule -/

/-- What a placed rule does to a draft: its writes and its answers come on top of those that were
there. -/
structure Draft.Adds (alternate : Nat) (r : PlacedRule) (d d' : Draft) : Prop where
  held : ∀ key, d'.held? key = (r.written? alternate key).or (d.held? key)
  answer : ∀ c, lastAnswer? (TailRule.answer? c) d'.tail =
    (r.answer? alternate c).or (lastAnswer? (TailRule.answer? c) d.tail)

namespace Draft

variable {alternate : Nat} {set : String} {swapped : Bool} {d d' : Draft}

/-- A rule that is left out with a warning neither writes nor answers. -/
theorem Adds.warn {r : PlacedRule} (w : RuleWarning)
    (hw : ∀ key, r.written? alternate key = none) (ha : ∀ c, r.answer? alternate c = none) :
    Adds alternate r d (d.warn w) where
  held key := by
    rw [hw, Option.none_or]
    rfl
  answer c := by rw [ha, Option.none_or, warn_tail]

/-- A rule that becomes a rule of the tail answers as this one does. -/
theorem Adds.push {r : PlacedRule} {l : TailRule} (hw : ∀ key, r.written? alternate key = none)
    (ha : ∀ c, r.answer? alternate c = l.answer? c) : Adds alternate r d (d.push l) where
  held key := by
    rw [hw, Option.none_or]
    rfl
  answer c := by rw [ha, push_tail, lastAnswer?_concat]

theorem adds_addChar (key : String) (value : Alternatives String) :
    Adds alternate ⟨swapped, .char key value⟩ d (d.addChar set swapped alternate key value) := by
  unfold addChar
  split
  · rename_i hpick
    refine Adds.warn _ (fun other => ?_) fun c => rfl
    simp [PlacedRule.written?, hpick, Alternatives.all_of_pick_eq_none hpick]
  · rename_i picked hpick
    split
    · rename_i hswapped
      refine ⟨fun other => ?_, fun c => rfl⟩
      simp only [Bool.not_eq_true'] at hswapped
      simp only [PlacedRule.written?, hswapped, Bool.false_eq_true, if_false, hpick, held?_write]
    · rename_i hswapped
      simp only [Bool.not_eq_true', Bool.not_eq_false] at hswapped
      split
      · rename_i hempty
        refine Adds.warn _ (fun other => ?_) fun c => rfl
        simp [PlacedRule.written?, hswapped, String.isEmpty_iff.1 hempty]
      · rename_i hempty
        have hne : key ≠ "" := fun h => hempty (String.isEmpty_iff.2 h)
        refine ⟨fun other => ?_, fun c => ?_⟩
        · rw [held?_writeSwapped]
          simp [PlacedRule.written?, hswapped, hne]
        · rw [writeSwapped_tail]
          rfl

theorem adds_addOffset {name : String} {spec : Alternatives OffsetSpec}
    (h : d.addOffset set swapped alternate name spec = .ok d') :
    Adds alternate ⟨swapped, .offset name spec⟩ d d' := by
  unfold addOffset at h
  split at h
  · rename_i hpick
    cases h
    exact Adds.warn _ (fun _ => rfl) fun c => by simp [PlacedRule.answer?, hpick]
  · rename_i s hpick
    dsimp only at h
    split at h
    · rename_i l hmade
      cases h
      refine Adds.push (fun _ => rfl) fun c => ?_
      simp only [PlacedRule.answer?, hpick, Option.bind_some]
      cases swapped with
      | true => exact OffsetSpec.answer?_of_makeInverse hmade c
      | false => exact OffsetSpec.answer?_of_make hmade c
    · cases h

theorem adds_addRange {name : String} {spec : Alternatives RangeSpec}
    (h : d.addRange set swapped alternate name spec = .ok d') :
    Adds alternate ⟨swapped, .range name spec⟩ d d' := by
  unfold addRange at h
  split at h
  · rename_i hswapped
    cases h
    exact Adds.warn _ (fun _ => rfl) fun c => by simp [PlacedRule.answer?, hswapped]
  · rename_i hswapped
    split at h
    · rename_i hpick
      cases h
      exact Adds.warn _ (fun _ => rfl) fun c => by simp [PlacedRule.answer?, hpick]
    · rename_i s hpick
      split at h
      · rename_i t hmade
        cases h
        refine Adds.push (fun _ => rfl) fun c => ?_
        simp only [PlacedRule.answer?, hswapped, hpick, Option.bind_some]
        exact RangeSpec.answer?_of_make hmade c
      · cases h

/-- A pattern has no say about single characters. -/
theorem adds_addPattern {name : String} {spec : Alternatives PatternSpec}
    (h : d.addPattern set swapped alternate name spec = .ok d') :
    Adds alternate ⟨swapped, .pattern name spec⟩ d d' := by
  unfold addPattern at h
  split at h
  · cases h
    exact Adds.warn _ (fun _ => rfl) fun _ => rfl
  · split at h
    · cases h
      exact Adds.warn _ (fun _ => rfl) fun _ => rfl
    · split at h
      · cases h
        exact Adds.push (fun _ => rfl) fun _ => rfl
      · cases h

/-- **Every rule adds its writes and its answers to a draft**, whatever its kind. -/
theorem adds_addRule {rule : Rule} (h : addRule set swapped alternate d rule = .ok d') :
    Adds alternate ⟨swapped, rule⟩ d d' := by
  cases rule with
  | char key value =>
    cases h
    exact adds_addChar key value
  | offset name spec => exact adds_addOffset h
  | range name spec => exact adds_addRange h
  | pattern name spec => exact adds_addPattern h

end Draft

/-! ## 6. Rows of rules -/

/-- The draft holds the last writes and the last answers of some rules. -/
structure Draft.Reflects (alternate : Nat) (rules : List PlacedRule) (d : Draft) : Prop where
  held : ∀ key, d.held? key = lastAnswer? (PlacedRule.written? alternate key) rules
  answer : ∀ c, lastAnswer? (TailRule.answer? c) d.tail =
    lastAnswer? (PlacedRule.answer? alternate c) rules

namespace Draft.Reflects

variable {alternate : Nat} {rules : List PlacedRule} {d d' : Draft}

theorem empty : Reflects alternate [] Draft.empty where
  held key := by
    unfold held?
    cases Dictionary.Key.ofString key <;> simp [Draft.empty, Dictionary.empty, Dictionary.find?]
  answer _ := rfl

theorem warn (h : Reflects alternate rules d) (w : RuleWarning) :
    Reflects alternate rules (d.warn w) := ⟨h.held, h.answer⟩

theorem concat (h : Reflects alternate rules d) {r : PlacedRule} (ha : Adds alternate r d d') :
    Reflects alternate (rules ++ [r]) d' where
  held key := by rw [ha.held, h.held, lastAnswer?_concat]
  answer c := by rw [ha.answer, h.answer, lastAnswer?_concat]

theorem addRules {set : String} {swapped : Bool} {more : List Rule}
    (h : Reflects alternate rules d)
    (ha : more.foldlM (addRule set swapped alternate) d = .ok d') :
    Reflects alternate (rules ++ more.map (⟨swapped, ·⟩)) d' := by
  have hrun := foldlM_collects (P := Reflects alternate) (fun rule => [⟨swapped, rule⟩])
    (fun hd hr => hd.concat (adds_addRule hr)) h ha
  rwa [← List.map_eq_flatMap] at hrun

theorem addLayer {layer : RuleSet} (h : Reflects alternate rules d)
    (ha : d.addLayer alternate layer = .ok d') :
    Reflects alternate (rules ++ layer.rules.map (⟨layer.metadata.swapsEntries, ·⟩)) d' := by
  unfold Draft.addLayer at ha
  dsimp only at ha
  split at ha
  · exact (h.warn _).addRules ha
  · exact h.addRules ha

/-- **A draft of layers holds the last writes and the last answers of their rules.** -/
theorem addLayers {layers : List RuleSet} (h : Draft.addLayers alternate layers = .ok d) :
    Reflects alternate (placedRules layers) d := by
  have hrun := foldlM_collects (P := Reflects alternate)
    (fun layer : RuleSet => layer.rules.map (⟨layer.metadata.swapsEntries, ·⟩))
    (fun hd hl => hd.addLayer hl) empty h
  rwa [List.nil_append] at hrun

/-- A draft that holds what the rules write and answer gives a character their meaning. -/
theorem resolveOver_eq (h : Reflects alternate rules d) (c : Char) :
    resolveOver d.head d.tail c = meaning alternate rules c := by
  have hown := h.held (String.singleton c)
  have hdefault := h.held ""
  rw [held?_singleton] at hown
  rw [held?_empty] at hdefault
  rw [resolveOver, meaning, h.answer, Dictionary.answerChar_toNat, hown, hdefault]
  congr 1
  dsimp only
  cases (lastAnswer? (PlacedRule.written? alternate (String.singleton c)) rules).or
      (lastAnswer? (PlacedRule.written? alternate "") rules) <;> rfl

end Draft.Reflects

/-! ## 7. Bundles -/

namespace Bundle

/-- **In a bundle that is built plainly a character becomes what the rules mean by it**: the last
rule that answers it decides, then the last text written to it, then the last default. -/
theorem resolve_layered {name : String} {layers : List RuleSet} {alternate : Nat} {b : Bundle}
    (h : build name layers ⟨alternate, false⟩ = .ok b) (c : Char) :
    b.resolve c = meaning alternate (placedRules layers) c := by
  obtain ⟨d, hd, rfl⟩ := build_plain_iff.1 h
  rw [resolve_eq]
  exact (Draft.Reflects.addLayers hd).resolveOver_eq c

end Bundle

end AnyEngine

namespace Bundle

/-- A set with a default, two offsets and an entry, under a swapped one with an offset and an entry
of two alternatives, under one whose range and entry override what is below them. -/
def threeLayers : List RuleSet :=
  [((((RuleSet.new "low").addFallback "?￼").addChars "a" ["1", "2"]).addOffset "up"
      ⟨98, 100, 1⟩).addOffset "far" ⟨0, 1, 9223372036854775807⟩,
    (((RuleSet.new "middle").swapping true).addChars "x" ["y", "z"]).addOffset "down" ⟨112, 114, 1⟩,
    ((RuleSet.new "high").addChar "y" "Y￼").addRange "boxed" ⟨[99, 100, 120, 121], ["<￼>"]⟩]

/-- The range decides for `c` over the offset and for `y` over both entries, the lower offset for
`b`, the swapped rules for `z` and `q`, the second alternative for `a` and the default for `!`. The
far offset moves its second character past the 64-bit numbers. -/
theorem resolve_layered_three :
    ∃ b, build "three" threeLayers ⟨1, false⟩ = .ok b ∧
      (∀ c ∈ ['c', 'y', 'b', 'z', 'q', 'a', '!'],
        b.resolve c = meaning 1 (placedRules threeLayers) c) ∧
      ['c', 'y', 'b', 'z', 'q', 'a', '!'].map (fun c => (b.resolve c).toOption) =
        [some "<c>", some "<y>", some "c", some "x", some "p", some "2", some "?!"] ∧
      b.resolve (Char.ofNat 1) = .error (.invalidResult 1 (-9223372036854775808)) := by
  have hb : build "three" threeLayers ⟨1, false⟩ = .ok _ := rfl
  refine ⟨_, hb, fun c _ => resolve_layered hb c, by decide +kernel, ?_⟩
  rw [resolve_layered hb]
  rfl

end Bundle

end Lettering
