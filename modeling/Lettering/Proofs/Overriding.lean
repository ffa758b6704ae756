import Lettering.Proofs.Meaning
import Lettering.Proofs.Reporting

/-!
# Which layers override which

A layer overrides the layers that come before it. Where the includes of a name have no cycle, a set
should override what it includes; this file says how far the order of a resolution goes.

* `Visit.Introduced`: every set met but the first one is listed by a set that was met before it. So
  a set comes before the highest of the layers that list it (`precedes_of_highest`), and before all
  of them where only one does.
* `Bundle.puts_of_last`: a bundle puts the last text written to a key in its place, so the entries
  of a layer win over those of the layers below it.
* `RuleStore.includer_overrides` puts these together with the warnings; `base_overrides_right` is a
  diamond in which a layer comes before a set that it includes.
-/

namespace Lettering

/-! ## 1. Order -/

namespace Precedes

variable {names : List String} {first middle later : String}

theorem trans (hdistinct : names.Nodup) (h : Precedes names first middle)
    (h' : Precedes names middle later) : Precedes names first later := by
  induction names with
  | nil => exact absurd h.mem_left List.not_mem_nil
  | cons name names ih =>
    obtain ⟨hname, hrest⟩ := List.nodup_cons.1 hdistinct
    cases h with
    | cons _ h =>
      cases h' with
      | cons _ h' => exact List.Sublist.cons name (ih hrest h h')
      | cons_cons _ _ => exact absurd (Precedes.mem_right h) hname
    | cons_cons _ h =>
      cases h' with
      | cons _ h' => exact cons_of_mem _ (Precedes.mem_right h')
      | cons_cons _ _ => exact absurd (List.singleton_sublist.1 h) hname

end Precedes

/-- In a row of layers one comes after another one, which it overrides. -/
def Overrides (layers : List RuleSet) (upper lower : RuleSet) : Prop :=
  ∃ below above, layers = below ++ upper :: above ∧ lower ∈ below

/-- Layers of different names are in the order of their names. -/
theorem overrides_of_precedes {layers : List RuleSet} {upper lower : RuleSet}
    (hdistinct : (layers.map (·.name)).Nodup) (hupper : upper ∈ layers) (hlower : lower ∈ layers)
    (h : Precedes (layers.map (·.name)) lower.name upper.name) : Overrides layers upper lower := by
  obtain ⟨before, after, hsplit, hmem⟩ := h.exists_split
  obtain ⟨below, rest, rfl, rfl, hrest⟩ := List.map_eq_append_iff.1 hsplit
  obtain ⟨upper', above, rfl, hname, -⟩ := List.map_eq_cons_iff.1 hrest
  obtain ⟨lower', hlower', hname'⟩ := List.mem_map.1 hmem
  have hsame : upper' = upper :=
    List.inj_on_of_nodup_map hdistinct (by simp) hupper hname
  have hsame' : lower' = lower :=
    List.inj_on_of_nodup_map hdistinct (List.mem_append_left _ hlower') hlower hname'
  exact ⟨below, above, by rw [hsame], hsame' ▸ hlower'⟩

/-- And their names are in the order of the layers. -/
theorem precedes_of_overrides {layers : List RuleSet} {upper lower : RuleSet}
    (h : Overrides layers upper lower) :
    Precedes (layers.map (·.name)) lower.name upper.name := by
  obtain ⟨below, above, rfl, hlower⟩ := h
  have hbelow : [lower.name].Sublist (below.map (·.name)) :=
    List.singleton_sublist.2 (List.mem_map_of_mem hlower)
  have habove : [upper.name].Sublist ((upper :: above).map (·.name)) :=
    List.singleton_sublist.2 (List.mem_map_of_mem List.mem_cons_self)
  rw [List.map_append]
  exact hbelow.append habove

/-! ## 2. Where a set is met -/

namespace Visit

variable {r : RuleStore} {start : String} {v v' : Visit}

/-- Every set met but the first one is listed by a set that was met before it. -/
def Introduced (r : RuleStore) (start : String) (v : Visit) : Prop :=
  ∀ name ∈ v.seen, name ≠ start → ∃ owner, Precedes v.seen name owner ∧ r.Lists owner name

theorem Introduced.step (hclosing : Closing r start v) (h : Introduced r start v)
    (hstep : Step r v v') : Introduced r start v' := by
  cases hstep with
  | self => exact h
  | again _ _ => exact h
  | @first seen layers warnings owner target pending met hother hnew hstored =>
    intro name hname hne
    rcases List.mem_cons.1 hname with rfl | hold
    · have howner : owner ∈ seen := hclosing.owners _ List.mem_cons_self
      exact ⟨owner, Precedes.cons_of_mem name howner, hclosing.lists List.mem_cons_self⟩
    · obtain ⟨other, hbefore, hlists⟩ := h name hold hne
      exact ⟨other, List.Sublist.cons target hbefore, hlists⟩

theorem Reached.introduced (h : Reached r start v) :
    Introduced r start v := by
  induction h with
  | start hstored => exact fun name hname hne => absurd (List.mem_singleton.1 hname) hne
  | step hv hstep ih => exact ih.step hv.closing hstep

end Visit

namespace RuleStore

variable {r : RuleStore} {name owner listed : String} {resolution : Resolution}

/-- No set that a name reaches leads back to itself. -/
def Acyclic (r : RuleStore) (name : String) : Prop :=
  ∀ other, r.Reaches name other → ¬ Relation.TransGen r.Lists other other

theorem Acyclic.ne_owner (h : r.Acyclic name) (howner : r.Reaches name owner)
    (hlists : r.Lists owner listed) : listed ≠ owner := by
  rintro rfl
  exact h listed howner (.single hlists)

theorem Acyclic.ne_start (h : r.Acyclic name) (howner : r.Reaches name owner)
    (hlists : r.Lists owner listed) : listed ≠ name := by
  rintro rfl
  exact h listed .refl (.tail' howner hlists)

/-- **A set comes before the highest of the sets that list it**, where there is no cycle. -/
theorem precedes_of_highest (h : r.resolve name = .ok resolution)
    (hacyclic : r.Acyclic name) (howner : owner ∈ resolution.names) (hlists : r.Lists owner listed)
    (hhighest : ∀ other ∈ resolution.names, r.Lists other listed → other ≠ owner →
      Precedes resolution.names other owner) : Precedes resolution.names listed owner := by
  obtain ⟨hcomplete, -⟩ := complete_of_resolve h
  have hreach : r.Reaches name owner := (hcomplete.reached owner).1 howner
  have hmet : listed ∈ resolution.names := (hcomplete.reached listed).2 (hreach.tail hlists)
  obtain ⟨v, hv, -, rfl⟩ := exists_visit_of_resolve h
  have hnames : Resolution.names ⟨v.layers, v.warnings⟩ = v.seen := hv.closing.names
  rw [hnames] at hmet hhighest ⊢
  obtain ⟨other, hbefore, hother⟩ :=
    hv.introduced listed hmet (hacyclic.ne_start hreach hlists)
  by_cases hsame : other = owner
  · exact hsame ▸ hbefore
  · have habove := hhighest other hbefore.mem_right hother hsame
    exact hbefore.trans hv.closing.distinct habove

end RuleStore

/-! ## 3. What a layer decides -/

/-- A set that is not swapped has an entry for a key. -/
def RuleSet.Writes (alternate : Nat) (key : String) (s : RuleSet) : Prop :=
  s.metadata.swapsEntries = false ∧
    ∃ value text, Rule.char key value ∈ s.rules ∧ value.pick alternate = some text

theorem placedRules_append (below above : List RuleSet) :
    placedRules (below ++ above) = placedRules below ++ placedRules above :=
  List.flatMap_append

/-- What an entry writes comes last in the rules of its layer and those above, or something above
does. -/
theorem RuleSet.Writes.exists_lastAnswer {alternate : Nat} {key : String} {upper : RuleSet}
    (h : upper.Writes alternate key) (above : List RuleSet) :
    ∃ text, lastAnswer? (PlacedRule.written? alternate key) (placedRules (upper :: above)) =
      some text := by
  obtain ⟨hstraight, value, text, hrule, hpick⟩ := h
  have hmem : (⟨false, .char key value⟩ : PlacedRule) ∈ placedRules (upper :: above) := by
    refine List.mem_flatMap.2 ⟨upper, List.mem_cons_self, ?_⟩
    rw [hstraight]
    exact List.mem_map_of_mem hrule
  refine Option.ne_none_iff_exists'.1 fun hnone => ?_
  have hsilent := lastAnswer?_eq_none_iff.1 hnone _ hmem
  simp [PlacedRule.written?, hpick] at hsilent

/-- So it is the last text written to the key, whatever the layers below write. -/
theorem lastAnswer?_written_append {alternate : Nat} {key text : String} {below above : List RuleSet}
    (h : lastAnswer? (PlacedRule.written? alternate key) (placedRules above) = some text) :
    lastAnswer? (PlacedRule.written? alternate key) (placedRules (below ++ above)) = some text := by
  rw [placedRules_append, lastAnswer?_append, h, Option.some_or]

/-- A bundle of layers puts a text in the place of a key: as its default, or for the character that
is the key where no offset or range answers it. -/
structure Bundle.Puts [Regex.Engine] (alternate : Nat) (layers : List RuleSet)
    (key text : String) (b : Bundle) : Prop where
  default : key = "" → b.head.fallback = some text
  char : ∀ c, key = String.singleton c →
    (∀ p ∈ placedRules layers, p.answer? alternate c = none) →
      b.resolve c = .ok (Marker.withChar c text)

/-- **A bundle puts the last text written to a key in its place.** -/
theorem Bundle.puts_of_last [Regex.Engine] {name : String} {layers : List RuleSet}
    {alternate : Nat} {flatten : Bool} {b : Bundle}
    (h : build name layers ⟨alternate, flatten⟩ = .ok b)
    {key text : String}
    (hlast : lastAnswer? (PlacedRule.written? alternate key) (placedRules layers) = some text) :
    b.Puts alternate layers key text where
  default := by
    rintro rfl
    exact (fallback_eq h).trans hlast
  char := by
    rintro c rfl hopen
    rw [resolve_of_no_answer h hopen, meaning, lastAnswer?_eq_none_iff.2 hopen, hlast]
    rfl

/-! ## 4. Includes -/

namespace RuleStore

variable {r : RuleStore} {name : String} {resolution : Resolution}

/-- What a layer lists is what its name lists in the store. -/
theorem Complete.lists_iff (h : r.Complete name resolution) {layer : RuleSet}
    (hlayer : layer ∈ resolution.layers) {listed : String} :
    r.Lists layer.name listed ↔ listed ∈ layer.includes := by
  have hstored := h.stored layer hlayer
  constructor
  · rintro ⟨found, hfound, hlisted⟩
    obtain rfl := Option.some.inj (hfound.symm.trans hstored)
    exact hlisted
  · exact fun hlisted => ⟨layer, hstored, hlisted⟩

/-- **How far a set overrides what it includes**, where the includes have no cycle. A layer that
lists another one comes after it, or the include is among the warnings. It comes after it if every
other layer that lists it stands lower, so in particular if no other one does. And an entry of a
layer wins over the entries for the same key of whatever comes before the layer: every bundle of
the layers puts in the place of the key what this layer and those above it write last. -/
theorem includer_overrides [Regex.Engine] (h : r.resolve name = .ok resolution)
    (hacyclic : r.Acyclic name) {owner listed : RuleSet} (howner : owner ∈ resolution.layers)
    (hlisted : listed ∈ resolution.layers) (hlists : listed.name ∈ owner.includes) :
    (Overrides resolution.layers owner listed ∨
      .includeLoop owner.name listed.name ∈ resolution.warnings) ∧
    ((∀ other ∈ resolution.layers, listed.name ∈ other.includes → other ≠ owner →
        Overrides resolution.layers owner other) → Overrides resolution.layers owner listed) ∧
    ∀ below above, resolution.layers = below ++ owner :: above →
      ∀ (alternate : Nat) (key : String), owner.Writes alternate key →
        ∃ text, lastAnswer? (PlacedRule.written? alternate key) (placedRules (owner :: above)) =
            some text ∧
          ∀ (bundle : String) (flatten : Bool) (b : Bundle),
            Bundle.build bundle resolution.layers ⟨alternate, flatten⟩ = .ok b →
              b.Puts alternate resolution.layers key text := by
  obtain ⟨hcomplete, -⟩ := complete_of_resolve h
  have hname : owner.name ∈ resolution.names := List.mem_map_of_mem howner
  have hedge : r.Lists owner.name listed.name := (hcomplete.lists_iff howner).2 hlists
  refine ⟨?_, fun hhighest => ?_, fun below above hlayers => ?_⟩
  · have hne : listed.name ≠ owner.name :=
      hacyclic.ne_owner ((hcomplete.reached owner.name).1 hname) hedge
    obtain ⟨before, after, hsplit⟩ := List.append_of_mem hlists
    rcases honoured_of_resolve h howner hsplit hne with hsaid | hafter
    · exact Or.inr hsaid
    · have hbefore := hafter owner.name List.mem_cons_self
      exact Or.inl (overrides_of_precedes hcomplete.distinct howner hlisted hbefore)
  · refine overrides_of_precedes hcomplete.distinct howner hlisted ?_
    refine precedes_of_highest h hacyclic hname hedge fun other hother hlisting hne => ?_
    obtain ⟨set, hset, rfl⟩ := List.mem_map.1 hother
    have hdifferent : set ≠ owner := fun e => hne (congrArg RuleSet.name e)
    exact precedes_of_overrides
      (hhighest set hset ((hcomplete.lists_iff hset).1 hlisting) hdifferent)
  · intro alternate key hwrites
    obtain ⟨text, htext⟩ := hwrites.exists_lastAnswer above
    refine ⟨text, htext, fun bundle flatten b hbuild => Bundle.puts_of_last hbuild ?_⟩
    rw [hlayers]
    exact lastAnswer?_written_append htext

/-- What is found in the store of a list is one of the list. -/
theorem mem_of_get?_ofList {sets : List RuleSet} {name : String} {set : RuleSet}
    (h : (ofList sets).get? name = some set) : set ∈ sets := by
  have hstored : ∀ (r : RuleStore) (sets : List RuleSet),
      (sets.foldl insert r).get? name = some set → set ∈ sets ∨ r.get? name = some set := by
    intro r sets hget
    induction sets generalizing r with
    | nil => exact Or.inr hget
    | cons first sets ih =>
      rcases ih (r.insert first) hget with hlater | hfirst
      · exact Or.inl (List.mem_cons_of_mem _ hlater)
      · unfold get? insert at hfirst
        rw [Std.ExtTreeMap.getElem?_insert] at hfirst
        split at hfirst
        · cases hfirst
          exact Or.inl List.mem_cons_self
        · exact Or.inr hfirst
  rcases hstored empty sets h with hmem | hnone
  · exact hmem
  · simp [get?, RuleStore.empty] at hnone

/-- Where includes always go down there is no cycle. -/
theorem acyclic_of_rank (rank : String → Nat)
    (hrank : ∀ owner listed, r.Lists owner listed → rank listed < rank owner) :
    r.Acyclic name := by
  intro other _ hcycle
  have hdown : ∀ {a b}, Relation.TransGen r.Lists a b → rank b < rank a := by
    intro a b hpath
    induction hpath with
    | single hlists => exact hrank _ _ hlists
    | tail _ hlists ih => exact Nat.lt_trans (hrank _ _ hlists) ih
  exact Nat.lt_irrefl _ (hdown hcycle)

/-- A set with two entries. -/
def lowest : RuleSet := ((RuleSet.new "base").addChar "k" "b").addChar "l" "b"

/-- A set that includes it and replaces one of the entries. -/
def leftSide : RuleSet := ((RuleSet.new "left").addChar "l" "x").addInclude "base"

/-- A set that includes it and replaces the other one. -/
def rightSide : RuleSet := ((RuleSet.new "right").addChar "k" "r").addInclude "base"

/-- A set that includes both. -/
def highest : RuleSet := ((RuleSet.new "top").addInclude "left").addInclude "right"

/-- The four of them in the order in which they are resolved. -/
def diamondLayers : List RuleSet := [rightSide, lowest, leftSide, highest]

/-- The store of these sets. -/
def diamond : RuleStore := .ofList diamondLayers

theorem diamond_resolve : diamond.resolve "top" =
    .ok ⟨diamondLayers, [.includeLoop "right" "base"]⟩ := by
  cbv

theorem diamond_acyclic : diamond.Acyclic "top" := by
  refine acyclic_of_rank
    (fun name => if name = "top" then 2 else if name = "base" then 0 else 1) ?_
  rintro owner listed ⟨set, hset, hlisted⟩
  have hname : set.name = owner := diamond.selfNamed hset
  have hmem : set ∈ diamondLayers := mem_of_get?_ofList hset
  subst hname
  simp only [diamondLayers, List.mem_cons, List.not_mem_nil, or_false] at hmem
  rcases hmem with rfl | rfl | rfl | rfl
  · obtain rfl := List.mem_singleton.1 hlisted
    decide
  · exact absurd hlisted List.not_mem_nil
  · obtain rfl := List.mem_singleton.1 hlisted
    decide
  · rcases List.mem_cons.1 hlisted with rfl | hlisted
    · decide
    · obtain rfl := List.mem_singleton.1 hlisted
      decide

/-- In the diamond the left side comes after the set that it includes, and its entry replaces the
one of that set. -/
theorem includer_overrides_diamond :
    diamond.Acyclic "top" ∧ ∃ resolution b,
      diamond.resolve "top" = .ok resolution ∧ Overrides resolution.layers leftSide lowest ∧
      Bundle.build "top" resolution.layers ⟨0, true⟩ = .ok b ∧ b.resolve 'l' = .ok "x" := by
  have hbuild : Bundle.build "top" diamondLayers ⟨0, true⟩ = .ok _ := rfl
  have hlowest : lowest ∈ diamondLayers := by simp [diamondLayers]
  have hleft : leftSide ∈ diamondLayers := by simp [diamondLayers]
  have hlists : lowest.name ∈ leftSide.includes := List.mem_singleton_self _
  obtain ⟨-, hhighest, hwins⟩ :=
    includer_overrides diamond_resolve diamond_acyclic hleft hlowest hlists
  have habove : Overrides diamondLayers leftSide lowest := by
    refine hhighest fun other hother hlisting hne => ?_
    simp only [diamondLayers, List.mem_cons, List.not_mem_nil, or_false] at hother
    rcases hother with rfl | rfl | rfl | rfl
    · exact ⟨[rightSide, lowest], _, rfl, List.mem_cons_self⟩
    · exact absurd hlisting List.not_mem_nil
    · exact absurd rfl hne
    · exact absurd hlisting (by decide)
  have hwrites : leftSide.Writes 0 "l" := ⟨rfl, .one "x", "x", List.mem_singleton_self _, rfl⟩
  have hopen : ∀ p ∈ placedRules diamondLayers, p.answer? 0 'l' = none := fun p hp =>
    Option.isNone_iff_eq_none.1 (by revert p; decide)
  obtain ⟨text, htext, hputs⟩ := hwins [rightSide, lowest] [highest] rfl 0 "l" hwrites
  have hresolve := (hputs "top" true _ hbuild).char 'l' rfl hopen
  have hx : lastAnswer? (PlacedRule.written? 0 "l") (placedRules [leftSide, highest]) =
      some "x" := rfl
  have hfilled : Marker.withChar 'l' "x" = "x" :=
    Marker.withChar_singleton_of_ne (d := 'x') 'l' (by decide)
  obtain rfl := Option.some.inj (hx.symm.trans htext)
  rw [hfilled] at hresolve
  exact ⟨diamond_acyclic, _, _, diamond_resolve, habove, hbuild, hresolve⟩

/-- **The right side does not.** It comes before the set that it includes, which was met on the left
side first; so the entry of that set replaces its own, although nothing in the diamond leads back
to itself. -/
theorem base_overrides_right :
    diamond.Acyclic "top" ∧ ∃ resolution b,
      diamond.resolve "top" = .ok resolution ∧ diamond.Lists "right" "base" ∧
      ¬ Overrides resolution.layers rightSide lowest ∧
      Overrides resolution.layers lowest rightSide ∧
      rightSide.Writes 0 "k" ∧
      Bundle.build "top" resolution.layers ⟨0, true⟩ = .ok b ∧ b.resolve 'k' = .ok "b" := by
  have hbuild : Bundle.build "top" diamondLayers ⟨0, true⟩ = .ok _ := rfl
  have hright : rightSide ∈ diamondLayers := by simp [diamondLayers]
  obtain ⟨hcomplete, -⟩ := complete_of_resolve diamond_resolve
  have habove : Overrides diamondLayers lowest rightSide :=
    ⟨[rightSide], _, rfl, List.mem_singleton_self _⟩
  have hdistinct : (diamondLayers.map (·.name)).Nodup := by decide
  refine ⟨diamond_acyclic, _, _, diamond_resolve, ?_, ?_, habove, ?_, hbuild, ?_⟩
  · exact (hcomplete.lists_iff hright).2 (List.mem_singleton_self _)
  · exact fun hbelow => (precedes_of_overrides habove).not_swap hdistinct
      (precedes_of_overrides hbelow)
  · exact ⟨rfl, .one "r", "r", List.mem_singleton_self _, rfl⟩
  · rfl

end RuleStore

end Lettering
