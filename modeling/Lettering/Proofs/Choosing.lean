import Lettering.Proofs.Contributing

/-!
# Which alternatives count

A bundle is built for the number of an alternative, which each rule takes from its own list. A list
that is too short gives its first alternative, whatever the others give.

* `Rule.place`: the place of the alternative that is taken, `Alternatives.pick_eq` being the reading
  of a list at this place.
* `Rule.settled`: a rule with nothing but what is taken of it. A swapped rule takes everything or
  nothing, an offset apart, so that `PlacedRule.Asks` is false of it and it stays as it is.
* `Draft.addRule_settled`: adding a settled rule is adding the rule, whatever the number is then; from
  there over `Draft.addLayer_settled` to `Bundle.build_settled`.
* `Bundle.build_settles`: what the number comes to, for all layers.
-/

namespace Lettering

/-! ## 1. Lists of alternatives -/

namespace Alternatives

variable {α : Type}

/-- The place of the alternative that a number takes: its own one in a list that has it, and else the
first. -/
def place (a : Alternatives α) (n : Nat) : Nat := if n < a.size then n else 0

theorem place_of_lt {a : Alternatives α} {n : Nat} (h : n < a.size) : a.place n = n := if_pos h

theorem place_of_size_le {a : Alternatives α} {n : Nat} (h : a.size ≤ n) : a.place n = 0 :=
  if_neg (Nat.not_lt.2 h)

theorem pick_eq (a : Alternatives α) (n : Nat) : a.pick n = a.all[a.place n]? := by
  by_cases hlt : n < a.size
  · rw [place_of_lt hlt]
    cases a with
    | one value =>
      obtain rfl : n = 0 := Nat.lt_one_iff.1 hlt
      rfl
    | many values =>
      have hsome : values[n]? = some values[n] := List.getElem?_eq_getElem hlt
      simp only [pick, all, hsome, Option.some_or]
  · rw [place_of_size_le (Nat.not_lt.1 hlt)]
    cases a with
    | one value => rfl
    | many values =>
      have hnone : values[n]? = none := List.getElem?_eq_none (Nat.not_lt.1 hlt)
      simp only [pick, all, hnone, Option.none_or, List.head?_eq_getElem?]

/-- The alternative that is taken, alone. -/
def settled (n : Nat) (a : Alternatives α) : Alternatives α := .many (a.pick n).toList

theorem pick_settled (a : Alternatives α) (n m : Nat) : (a.settled n).pick m = a.pick n := by
  unfold settled
  cases hpick : a.pick n with
  | none => simp [pick]
  | some value => cases m <;> simp [pick]

/-- Numbers with the same place take the same alternative. -/
theorem settled_congr {a : Alternatives α} {n m : Nat} (h : a.place n = a.place m) :
    a.settled n = a.settled m := by
  rw [settled, settled, pick_eq, pick_eq, h]

end Alternatives

/-! ## 2. Rules and layers -/

namespace Rule

/-- The number of alternatives that a rule lists. -/
def size : Rule → Nat
  | char _ value => value.size
  | offset _ spec => spec.size
  | range _ spec => spec.size
  | pattern _ spec => spec.size

/-- The place of the alternative that a number takes of a rule. -/
def place (n : Nat) (r : Rule) : Nat := if n < r.size then n else 0

/-- The rule with the alternative that is taken alone. -/
def settled (n : Nat) : Rule → Rule
  | char key value => char key (value.settled n)
  | offset name spec => offset name (spec.settled n)
  | range name spec => range name (spec.settled n)
  | pattern name spec => pattern name (spec.settled n)

theorem settled_congr {n m : Nat} {r : Rule} (h : r.place n = r.place m) :
    r.settled n = r.settled m := by
  cases r with
  | char key value => exact congrArg (char key) (Alternatives.settled_congr h)
  | offset name spec => exact congrArg (offset name) (Alternatives.settled_congr h)
  | range name spec => exact congrArg (range name) (Alternatives.settled_congr h)
  | pattern name spec => exact congrArg (pattern name) (Alternatives.settled_congr h)

/-- A number that is past the list of a rule has the first place. -/
theorem place_of_size_le {n : Nat} {r : Rule} (h : r.size ≤ n) : r.place n = r.place 0 := by
  unfold place
  rw [if_neg (Nat.not_lt.2 h)]
  split <;> rfl

end Rule

/-- One of the alternatives is asked for. Swapped, only an offset does. -/
def PlacedRule.Asks (r : PlacedRule) : Prop := r.swapped = true → r.rule.kind = .offset

instance (r : PlacedRule) : Decidable r.Asks :=
  inferInstanceAs (Decidable (r.swapped = true → r.rule.kind = .offset))

/-- The rule as it is read, with nothing but what is taken of it. -/
def PlacedRule.settled (n : Nat) (r : PlacedRule) : Rule :=
  if r.Asks then r.rule.settled n else r.rule

/-- The layer with nothing but what is taken of its rules. -/
def RuleSet.settled (n : Nat) (layer : RuleSet) : RuleSet :=
  { layer with
    rules := layer.rules.map fun rule => PlacedRule.settled n ⟨layer.metadata.swapsEntries, rule⟩ }

/-- A layer settles alike for numbers that have the same place in the lists of all rules that ask. -/
theorem RuleSet.settled_congr {layer : RuleSet} {n m : Nat}
    (h : ∀ rule ∈ layer.rules, PlacedRule.Asks ⟨layer.metadata.swapsEntries, rule⟩ →
      rule.place n = rule.place m) : layer.settled n = layer.settled m := by
  unfold settled
  congr 1
  refine List.map_congr_left fun rule hrule => ?_
  unfold PlacedRule.settled
  split
  · rename_i hasks
    exact Rule.settled_congr (h rule hrule hasks)
  · rfl

/-! ## 3. Drafts -/

section AnyEngine

variable [Regex.Engine]

namespace Draft

variable {set : String} {d : Draft} {n m : Nat}

/-- A rule that asks for an alternative makes no use of the others. -/
theorem addRule_of_asks {r : PlacedRule} (h : r.Asks) :
    addRule set r.swapped m d (r.rule.settled n) = addRule set r.swapped n d r.rule := by
  obtain ⟨swapped, rule⟩ := r
  cases rule with
  | char key value =>
    cases swapped with
    | false =>
      simp only [Rule.settled, addRule, addChar, Alternatives.pick_settled, Bool.not_false,
        ↓reduceIte]
    | true => cases h rfl
  | offset name spec => simp only [Rule.settled, addRule, addOffset, Alternatives.pick_settled]
  | range name spec => simp only [Rule.settled, addRule, addRange, Alternatives.pick_settled]
  | pattern name spec => simp only [Rule.settled, addRule, addPattern, Alternatives.pick_settled]

/-- A rule that asks for none is added in the same way for every number. -/
theorem addRule_of_not_asks {r : PlacedRule} (h : ¬ r.Asks) :
    addRule set r.swapped m d r.rule = addRule set r.swapped n d r.rule := by
  obtain ⟨swapped, rule⟩ := r
  obtain ⟨rfl, hkind⟩ : swapped = true ∧ rule.kind ≠ .offset := Classical.not_imp.1 h
  cases rule with
  | char key value =>
    simp only [addRule, addChar]
    -- whether there is an alternative at all does not depend on the number
    cases hn : value.pick n with
    | none => rw [Alternatives.pick_eq_none_iff.2 (Alternatives.pick_eq_none_iff.1 hn)]
    | some picked =>
      cases hm : value.pick m with
      | none =>
        cases hn.symm.trans (Alternatives.pick_eq_none_iff.2 (Alternatives.pick_eq_none_iff.1 hm))
      | some other => rfl
  | offset name spec => exact absurd rfl hkind
  | range name spec => rfl
  | pattern name spec => rfl

/-- **Adding a settled rule is adding the rule**, whatever the number is then. -/
theorem addRule_settled (r : PlacedRule) :
    addRule set r.swapped m d (r.settled n) = addRule set r.swapped n d r.rule := by
  unfold PlacedRule.settled
  split
  · rename_i hasks
    exact addRule_of_asks hasks
  · rename_i hasks
    exact addRule_of_not_asks hasks

end Draft

theorem Draft.addLayer_settled (n m : Nat) (d : Draft) (layer : RuleSet) :
    d.addLayer m (layer.settled n) = d.addLayer n layer := by
  have hrule : (fun (d : Draft) rule => addRule layer.name layer.metadata.swapsEntries m d
        (PlacedRule.settled n ⟨layer.metadata.swapsEntries, rule⟩)) =
      addRule layer.name layer.metadata.swapsEntries n := by
    funext d rule
    exact addRule_settled ⟨layer.metadata.swapsEntries, rule⟩
  unfold addLayer RuleSet.settled
  dsimp only
  rw [List.foldlM_map, hrule]

theorem Draft.addLayers_settled (n m : Nat) (layers : List RuleSet) :
    addLayers m (layers.map (RuleSet.settled n)) = addLayers n layers := by
  have hlayer : (fun d layer => addLayer m d (layer.settled n)) = addLayer n := by
    funext d layer
    exact d.addLayer_settled n m layer
  rw [addLayers, List.foldlM_map, hlayer, addLayers]

/-! ## 4. Bundles -/

namespace Bundle

variable {name : String} {layers : List RuleSet} {flatten : Bool} {n m : Nat}

/-- **The bundle of some layers is that of the settled ones**, whatever the number is then. -/
theorem build_settled : build name (layers.map (RuleSet.settled n)) ⟨m, flatten⟩ =
    build name layers ⟨n, flatten⟩ := by
  have hmetadata : (layers.map (RuleSet.settled n)).getLast?.map (·.metadata) =
      layers.getLast?.map (·.metadata) := by
    rw [List.getLast?_map, Option.map_map]
    rfl
  unfold build
  simp only [Draft.addLayers_settled, hmetadata]

/-- Numbers for which the layers settle alike build the same. -/
theorem build_congr (h : ∀ layer ∈ layers, layer.settled n = layer.settled m) :
    build name layers ⟨n, flatten⟩ = build name layers ⟨m, flatten⟩ := by
  rw [← build_settled (m := 0), List.map_congr_left h, build_settled]

end Bundle

/-! ## 5. Every number -/

namespace Bundle

/-- What the number of an alternative comes to when a bundle is built. -/
structure Settles (name : String) (layers : List RuleSet) (flatten : Bool) (n m : Nat) : Prop where
  /-- Numbers with the same place in every list build the same bundle, or fail alike. -/
  same : (∀ layer ∈ layers, ∀ rule ∈ layer.rules, rule.place n = rule.place m) →
    build name layers ⟨n, flatten⟩ = build name layers ⟨m, flatten⟩
  /-- A number that is past every list builds what the first one does. -/
  past : (∀ layer ∈ layers, ∀ rule ∈ layer.rules, rule.size ≤ n) →
    build name layers ⟨n, flatten⟩ = build name layers ⟨0, flatten⟩
  /-- Each list counts for itself: what is built is what the layers give in which every rule has been
  settled by its own list, and these give it for every number. -/
  settled : build name (layers.map (RuleSet.settled n)) ⟨m, flatten⟩ =
    build name layers ⟨n, flatten⟩
  /-- A list that the number is past settles as for the first one, however long the others are. -/
  short {rule : Rule} : rule.size ≤ n → rule.settled n = rule.settled 0
  /-- Layers that are swapped and have no offset build the same for all numbers. -/
  swapped : (∀ layer ∈ layers, layer.metadata.swapsEntries = true ∧
      ∀ rule ∈ layer.rules, rule.kind ≠ .offset) →
    build name layers ⟨n, flatten⟩ = build name layers ⟨m, flatten⟩

/-- **Only the places count that a number has in the lists of alternatives**, for all layers, with
flattening and without it. -/
theorem build_settles (name : String) (layers : List RuleSet) (flatten : Bool) (n m : Nat) :
    Settles name layers flatten n m where
  same h := build_congr fun layer hlayer => RuleSet.settled_congr fun rule hrule _ =>
    h layer hlayer rule hrule
  past h := build_congr fun layer hlayer => RuleSet.settled_congr fun rule hrule _ =>
    Rule.place_of_size_le (h layer hlayer rule hrule)
  settled := build_settled
  short h := Rule.settled_congr (Rule.place_of_size_le h)
  swapped h := build_congr fun layer hlayer => RuleSet.settled_congr fun rule hrule hasks =>
    absurd (hasks (h layer hlayer).1) ((h layer hlayer).2 rule hrule)

end Bundle

end AnyEngine

namespace Bundle

/-- Lists of two and of three alternatives under a swapped layer, and an offset in this layer of
which the second alternative is none. -/
def unevenLayers : List RuleSet :=
  [((RuleSet.new "low").addChars "a" ["x", "y"]).addChars "b" ["1", "2", "3"],
    (((RuleSet.new "high").swapping true).addChars "k" ["p", "q"]).add
      (.offset "wide" (.many [⟨48, 57, 65248⟩, ⟨57, 48, 0⟩]))]

/-- For the number two, which only one list has, it gives its third alternative and the others their
first; for the number one the offset is refused. Three and nine are past all lists and count as zero.
The swapped layer without its offset has both alternatives under every number. -/
theorem build_settles_uneven :
    (∃ b, build "uneven" unevenLayers ⟨2, true⟩ = .ok b ∧
      b.head.answerChar 97 = "x" ∧ b.head.answerChar 98 = "3") ∧
      (∃ e, build "uneven" unevenLayers ⟨1, true⟩ = .error e) ∧
      build "uneven" unevenLayers ⟨3, true⟩ = build "uneven" unevenLayers ⟨9, true⟩ ∧
      build "uneven" unevenLayers ⟨9, true⟩ = build "uneven" unevenLayers ⟨0, true⟩ ∧
      build "swapped" [((RuleSet.new "high").swapping true).addChars "k" ["p", "q"]] ⟨0, true⟩ =
        build "swapped" [((RuleSet.new "high").swapping true).addChars "k" ["p", "q"]] ⟨1, true⟩ := by
  have htwo := (build_settles "uneven" unevenLayers true 2 0).settled
  have hone := (build_settles "uneven" unevenLayers true 1 0).settled
  refine ⟨⟨_, htwo.symm.trans rfl, ?_, ?_⟩, ⟨_, hone.symm.trans rfl⟩, ?_, ?_, ?_⟩
  · decide +kernel
  · decide +kernel
  · exact (build_settles "uneven" unevenLayers true 3 9).same (by decide)
  · exact (build_settles "uneven" unevenLayers true 9 0).past (by decide)
  · exact (build_settles "swapped" _ true 0 1).swapped (by decide)

end Bundle

end Lettering
