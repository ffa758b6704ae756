import Lettering.Proofs.Flattening
import Lettering.Proofs.Layering

/-!
# Meaning, whether shifts are written out or not

A bundle comes from the draft of its layers, as it is or folded. This file reads both kinds of
bundles off the rules of the layers.

* `Bundle.exists_draft_of_build`: the draft behind a bundle.
* `Bundle.resolve_eq_meaning`: a character means what the rules mean by it, unless a rule shifts it
  to the marker.
* `PlacedRule.reply?`: what one rule makes of a character. Where the rules that reply agree, the
  character means their reply (`meaning_of_reply`); where none replies, itself
  (`meaning_of_no_reply`).
* `Bundle.substitutions_eq`: the substitutions of a bundle are those of the pattern rules, in their
  order.
-/

namespace Lettering

/-! ## 1. Characters that one rule replies to -/

/-- What a rule makes of a character: its answer or, without one, the text that it writes to the
character with the character in place of each marker. -/
def PlacedRule.reply? (alternate : Nat) (c : Char) (r : PlacedRule) :
    Option (Except LookupError String) :=
  (r.answer? alternate c).or <|
    (r.written? alternate (String.singleton c)).map fun value => .ok (Marker.withChar c value)

theorem PlacedRule.reply?_of_answer? {alternate : Nat} {c : Char} {r : PlacedRule}
    {answer : Except LookupError String} (h : r.answer? alternate c = some answer) :
    r.reply? alternate c = some answer := by
  rw [reply?, h, Option.some_or]

/-- **Where all rules that reply to a character agree, it means their reply.** -/
theorem meaning_of_reply {alternate : Nat} {rules : List PlacedRule} {c : Char} {r : PlacedRule}
    {reply : Except LookupError String} (hr : r ∈ rules) (hreply : r.reply? alternate c = some reply)
    (hagree : ∀ r' ∈ rules, ∀ reply', r'.reply? alternate c = some reply' → reply' = reply) :
    meaning alternate rules c = reply := by
  cases hanswer : lastAnswer? (PlacedRule.answer? alternate c) rules with
  | some answer =>
    obtain ⟨r', hr', ha⟩ := exists_of_lastAnswer?_eq_some hanswer
    rw [meaning, hanswer, Option.getD_some]
    exact hagree r' hr' answer (PlacedRule.reply?_of_answer? ha)
  | none =>
    -- no rule answers, so every reply is a text written to the character
    have hopen := lastAnswer?_eq_none_iff.1 hanswer
    have hwritten : ∀ r' ∈ rules, r'.reply? alternate c =
        (r'.written? alternate (String.singleton c)).map fun v => .ok (Marker.withChar c v) :=
      fun r' hr' => by rw [PlacedRule.reply?, hopen r' hr', Option.none_or]
    cases hown : lastAnswer? (PlacedRule.written? alternate (String.singleton c)) rules with
    | none =>
      have hnone := lastAnswer?_eq_none_iff.1 hown r hr
      rw [hwritten r hr, hnone] at hreply
      cases hreply
    | some value =>
      obtain ⟨r', hr', hvalue⟩ := exists_of_lastAnswer?_eq_some hown
      have hreply' : r'.reply? alternate c = some (.ok (Marker.withChar c value)) := by
        rw [hwritten r' hr', hvalue, Option.map_some]
      rw [meaning, hanswer, Option.getD_none, hown]
      exact hagree r' hr' _ hreply'

/-- **A character that no rule replies to means itself** where no rule writes a default. -/
theorem meaning_of_no_reply {alternate : Nat} {rules : List PlacedRule} {c : Char}
    (hreply : ∀ r ∈ rules, r.reply? alternate c = none)
    (hdefault : ∀ r ∈ rules, r.written? alternate "" = none) :
    meaning alternate rules c = .ok (String.singleton c) := by
  have hanswer : lastAnswer? (PlacedRule.answer? alternate c) rules = none :=
    lastAnswer?_eq_none_iff.2 fun r hr => (Option.or_eq_none_iff.1 (hreply r hr)).1
  have hown : lastAnswer? (PlacedRule.written? alternate (String.singleton c)) rules = none :=
    lastAnswer?_eq_none_iff.2 fun r hr =>
      Option.map_eq_none_iff.1 (Option.or_eq_none_iff.1 (hreply r hr)).2
  have hfallback : lastAnswer? (PlacedRule.written? alternate "") rules = none :=
    lastAnswer?_eq_none_iff.2 hdefault
  rw [meaning, hanswer, hown, hfallback]
  rfl

variable [Regex.Engine]

/-! ## 2. Drafts behind bundles -/

/-- What became of the head and the tail of a draft in a bundle: they stayed, or the tail was folded
into the head. -/
inductive Bundle.ComesFrom (b : Bundle) (d : Draft) : Prop where
  | plain (head : b.head = d.head) (tail : b.tail = d.tail)
  | folded (h : Folds { d.head with named := ∅ } d.tail b.head b.tail)

namespace Bundle

variable {name : String} {layers : List RuleSet} {alternate : Nat} {flatten : Bool} {b : Bundle}

/-- **Every bundle comes from the draft of its layers**, and takes the metadata of the last one. -/
theorem exists_draft_of_build (h : build name layers ⟨alternate, flatten⟩ = .ok b) :
    ∃ d, Draft.addLayers alternate layers = .ok d ∧ b.ComesFrom d ∧
      b.metadata = (layers.getLast?.map (·.metadata)).getD .empty := by
  cases flatten with
  | false =>
    obtain ⟨d, hd, rfl⟩ := build_plain_iff.1 h
    exact ⟨d, hd, .plain rfl rfl, rfl⟩
  | true =>
    obtain ⟨plain, hplain, hfolds, -, hmetadata⟩ := exists_folds_of_build h
    obtain ⟨d, hd, rfl⟩ := build_plain_iff.1 hplain
    exact ⟨d, hd, .folded hfolds, hmetadata⟩

end Bundle

/-! ## 3. Characters -/

/-- Where a shift before every interval map takes a character to the marker, the marker is the last
answer. -/
theorem ShiftsToMarker.lastAnswer {tail : List TailRule} {c : Char} (h : ShiftsToMarker tail c) :
    lastAnswer? (TailRule.answer? c) tail = some (.ok Marker.text) := by
  obtain ⟨before, l, behind, rfl, -, hi, hopen⟩ := h
  have hbehind : lastAnswer? (TailRule.answer? c) behind = none :=
    lastAnswer?_eq_none_iff.2 fun rule hrule => TailRule.answer?_eq_none_iff.2 (hopen rule hrule)
  have hcovers : (TailRule.shift l).covers c.toNat = true := Shift.covers_of_image hi
  have hanswer : (TailRule.shift l).answer c.toNat = .ok Marker.text := Shift.answer_of_image hi
  have hfirst : TailRule.answer? c (.shift l) = some (.ok Marker.text) := by
    rw [TailRule.answer?, if_pos hcovers, hanswer]
  rw [lastAnswer?_append, lastAnswer?_cons, hbehind, hfirst]
  rfl

namespace Bundle

variable {name : String} {layers : List RuleSet} {alternate : Nat} {flatten : Bool} {b : Bundle}

/-- **A character means what the rules mean by it**, whether shifts are written out or not, unless
the rule that answers takes it to the marker. -/
theorem resolve_eq_meaning (h : build name layers ⟨alternate, flatten⟩ = .ok b) {c : Char}
    (hmarker : lastAnswer? (PlacedRule.answer? alternate c) (placedRules layers) ≠
      some (.ok Marker.text)) :
    b.resolve c = meaning alternate (placedRules layers) c := by
  obtain ⟨d, hd, hfrom, -⟩ := exists_draft_of_build h
  have hreflects := Draft.Reflects.addLayers hd
  rw [resolve_eq, ← hreflects.resolveOver_eq]
  cases hfrom with
  | plain hhead htail => rw [hhead, htail]
  | folded hfolds =>
    rw [← hreflects.answer] at hmarker
    rw [hfolds.resolveOver_eq fun hshifts => hmarker hshifts.lastAnswer]
    rfl

/-- In particular where no rule answers the character. -/
theorem resolve_of_no_answer (h : build name layers ⟨alternate, flatten⟩ = .ok b) {c : Char}
    (hopen : ∀ r ∈ placedRules layers, r.answer? alternate c = none) :
    b.resolve c = meaning alternate (placedRules layers) c := by
  refine resolve_eq_meaning h ?_
  rw [lastAnswer?_eq_none_iff.2 hopen]
  exact fun e => by cases e

/-- The default of a bundle is the last one written. -/
theorem fallback_eq (h : build name layers ⟨alternate, flatten⟩ = .ok b) :
    b.head.fallback = lastAnswer? (PlacedRule.written? alternate "") (placedRules layers) := by
  obtain ⟨d, hd, hfrom, -⟩ := exists_draft_of_build h
  rw [← (Draft.Reflects.addLayers hd).held, Draft.held?_empty]
  cases hfrom with
  | plain hhead htail => rw [hhead]
  | folded hfolds => exact hfolds.fallback

end Bundle

/-! ## 4. Substitutions -/

/-- The substitution that a rule adds, if it does. -/
def PlacedRule.substitution? (alternate : Nat) (r : PlacedRule) : Option Substitution :=
  match r.rule with
  | .pattern _ spec =>
    if r.swapped then none
    else (spec.pick alternate).bind fun s => Substitution.make? s.pattern s.replacement
  | _ => none

namespace Draft

variable {alternate : Nat} {set : String} {swapped : Bool} {d d' : Draft}

/-- The substitutions of a draft in the order of its tail. -/
def substitutions (d : Draft) : List Substitution := d.tail.filterMap TailRule.substitution?

theorem substitutions_push (d : Draft) (l : TailRule) :
    (d.push l).substitutions = d.substitutions ++ l.substitution?.toList := by
  rw [substitutions, push_tail, List.filterMap_append, substitutions]
  cases l <;> rfl

theorem substitutions_addChar (key : String) (value : Alternatives String) :
    (d.addChar set swapped alternate key value).substitutions = d.substitutions := by
  have htail : (d.addChar set swapped alternate key value).tail = d.tail := by
    unfold addChar
    split
    · rfl
    · split
      · rfl
      · split
        · rfl
        · exact writeSwapped_tail ..
  rw [substitutions, htail, substitutions]

theorem substitutions_addOffset {name : String} {spec : Alternatives OffsetSpec}
    (h : d.addOffset set swapped alternate name spec = .ok d') :
    d'.substitutions = d.substitutions := by
  unfold addOffset at h
  split at h
  · cases h
    rfl
  · dsimp only at h
    split at h
    · cases h
      exact (substitutions_push ..).trans (List.append_nil _)
    · cases h

theorem substitutions_addRange {name : String} {spec : Alternatives RangeSpec}
    (h : d.addRange set swapped alternate name spec = .ok d') :
    d'.substitutions = d.substitutions := by
  unfold addRange at h
  split at h
  · cases h
    rfl
  · split at h
    · cases h
      rfl
    · split at h
      · cases h
        exact (substitutions_push ..).trans (List.append_nil _)
      · cases h

theorem substitutions_addPattern {name : String} {spec : Alternatives PatternSpec}
    (h : d.addPattern set swapped alternate name spec = .ok d') :
    d'.substitutions = d.substitutions ++
      (PlacedRule.substitution? alternate ⟨swapped, .pattern name spec⟩).toList := by
  unfold addPattern at h
  split at h
  · rename_i hswapped
    cases h
    simp only [PlacedRule.substitution?, hswapped, if_true, Option.toList_none, List.append_nil]
    rfl
  · rename_i hswapped
    split at h
    · rename_i hpick
      cases h
      simp only [PlacedRule.substitution?, hpick, Option.bind_none, ite_self, Option.toList_none,
        List.append_nil]
      rfl
    · rename_i s hpick
      split at h
      · rename_i p hmade
        cases h
        simp only [PlacedRule.substitution?, hswapped, hpick, Option.bind_some, hmade]
        exact substitutions_push ..
      · cases h

/-- Only a pattern rule adds a substitution. -/
theorem substitutions_addRule {rule : Rule} (h : addRule set swapped alternate d rule = .ok d') :
    d'.substitutions =
      d.substitutions ++ (PlacedRule.substitution? alternate ⟨swapped, rule⟩).toList := by
  cases rule with
  | char key value =>
    cases h
    rw [substitutions_addChar]
    exact (List.append_nil _).symm
  | offset name spec =>
    rw [substitutions_addOffset h]
    exact (List.append_nil _).symm
  | range name spec =>
    rw [substitutions_addRange h]
    exact (List.append_nil _).symm
  | pattern name spec => exact substitutions_addPattern h

/-- What a row of rules and the rows before it substitute. -/
theorem substitutions_addRules {rules : List Rule} {done : List PlacedRule}
    (hd : d.substitutions = done.filterMap (PlacedRule.substitution? alternate))
    (h : rules.foldlM (addRule set swapped alternate) d = .ok d') :
    d'.substitutions =
      (done ++ rules.map (PlacedRule.mk swapped)).filterMap
        (PlacedRule.substitution? alternate) := by
  have hrun := foldlM_collects
    (P := fun done d => d.substitutions = done.filterMap (PlacedRule.substitution? alternate))
    (fun rule => [⟨swapped, rule⟩]) (fun {done d rule d'} hd hr => by
      have hone : [(⟨swapped, rule⟩ : PlacedRule)].filterMap (PlacedRule.substitution? alternate) =
          (PlacedRule.substitution? alternate ⟨swapped, rule⟩).toList := by
        rw [List.filterMap_cons, List.filterMap_nil]
        cases PlacedRule.substitution? alternate ⟨swapped, rule⟩ <;> rfl
      rw [substitutions_addRule hr, hd, List.filterMap_append, hone]) hd h
  rwa [← List.map_eq_flatMap] at hrun

/-- **A draft of layers substitutes what their pattern rules say**, in their order. -/
theorem substitutions_addLayers {layers : List RuleSet} (h : addLayers alternate layers = .ok d) :
    d.substitutions = (placedRules layers).filterMap (PlacedRule.substitution? alternate) := by
  have hnone : empty.substitutions = [].filterMap (PlacedRule.substitution? alternate) := rfl
  have hrun := foldlM_collects
    (P := fun done d => d.substitutions = done.filterMap (PlacedRule.substitution? alternate))
    (fun layer : RuleSet => layer.rules.map (⟨layer.metadata.swapsEntries, ·⟩))
    (fun {done d layer d'} hd hl => by
      unfold addLayer at hl
      dsimp only at hl
      split at hl
      · exact substitutions_addRules (d := d.warn _) hd hl
      · exact substitutions_addRules hd hl) hnone h
  rwa [List.nil_append] at hrun

end Draft

/-- **The substitutions of a bundle are those of its pattern rules**, in their order. -/
theorem Bundle.substitutions_eq {name : String} {layers : List RuleSet} {alternate : Nat}
    {flatten : Bool} {b : Bundle} (h : build name layers ⟨alternate, flatten⟩ = .ok b) :
    b.substitutions = (placedRules layers).filterMap (PlacedRule.substitution? alternate) := by
  obtain ⟨d, hd, hfrom, -⟩ := exists_draft_of_build h
  rw [← Draft.substitutions_addLayers hd]
  cases hfrom with
  | plain hhead htail => rw [substitutions, htail, Draft.substitutions]
  | folded hfolds => exact hfolds.substitutions

end Lettering
