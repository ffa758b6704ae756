import Lettering.Proofs.Skipping

/-!
# Character by character

A dictionary is applied to a text, and a bundle with nothing but a head run on it, each with shortcuts
of its own. Both come to the answers for the single characters, put together.

* `Dictionary.answerEach`: the answers for a row of characters, with no shortcut.
* `answerEach_of_not_listed`: where both shortcuts of a dictionary are taken the answers make up the
  text; `apply_eq` says what applying gives, whether they are taken or not.
* `Bundle.resolveEach_of_not_covered`: characters that no rule of the tail covers resolve to the
  answers of the head; `Bundle.run_of_no_tail` is the run of a bundle without a tail.
* `engines_agree` puts these together.
-/

namespace Lettering

/-! ## 1. Dictionaries -/

namespace Dictionary

variable {d : Dictionary}

/-- The answers for a row of characters put together. -/
def answerEach (d : Dictionary) (cs : List Char) : String :=
  String.join (cs.map fun c => d.answerChar c.toNat)

theorem answerEach_cons (d : Dictionary) (c : Char) (cs : List Char) :
    d.answerEach (c :: cs) = d.answerChar c.toNat ++ d.answerEach cs := by
  rw [answerEach, List.map_cons, String.join_cons, answerEach]

theorem answerEach_append (d : Dictionary) (cs more : List Char) :
    d.answerEach (cs ++ more) = d.answerEach cs ++ d.answerEach more := by
  rw [answerEach, List.map_append, String.join_append, answerEach, answerEach]

/-- Without a fallback, characters that are not listed answer with themselves. -/
theorem answerEach_of_not_listed (h : d.fallback = none) {cs : List Char}
    (hcs : ∀ c ∈ cs, d.chars.contains c.toNat = false) : d.answerEach cs = String.ofList cs := by
  induction cs with
  | nil => rfl
  | cons c cs ih =>
    have hself := answerChar_of_not_listed h (hcs c List.mem_cons_self)
    rw [answerEach_cons, hself, ih fun x hx => hcs x (List.mem_cons_of_mem c hx),
      String.singleton_eq_ofList, ← String.ofList_append, List.singleton_append]

/-- Where nothing can change, there is no fallback and no character is listed. -/
theorem changesNothing_iff :
    d.changesNothing = true ↔ d.fallback = none ∧ ∀ c, d.chars.contains c = false := by
  unfold changesNothing
  rw [Bool.and_eq_true, Option.isNone_iff_eq_none, and_comm, Std.ExtTreeMap.isEmpty_iff,
    Std.ExtTreeMap.eq_empty_iff_forall_contains]

/-- **A dictionary applied to a text gives the answers for its characters**, whether a shortcut is
taken or not. -/
theorem apply_eq (d : Dictionary) (text : String) : d.apply text = d.answerEach text.toList := by
  unfold apply
  split
  · rename_i hnothing
    obtain ⟨hfallback, hfree⟩ := changesNothing_iff.1 hnothing
    rw [answerEach_of_not_listed hfallback fun c _ => hfree c.toNat, String.ofList_toList]
  · split
    · rename_i hunlisted
      rw [Bool.and_eq_true, Option.isNone_iff_eq_none, Bool.not_eq_true', List.any_eq_false]
        at hunlisted
      obtain ⟨hfallback, hfree⟩ := hunlisted
      rw [answerEach_of_not_listed hfallback fun c hc => Bool.eq_false_iff.2 (hfree c hc),
        String.ofList_toList]
    · rw [answerEach, String.join, List.foldl_map]

end Dictionary

/-! ## 2. Bundles -/

section AnyEngine

variable [Regex.Engine]

namespace Bundle

variable {b : Bundle}

/-- Characters that no rule of the tail covers resolve to the answers of the head. -/
theorem resolveEach_of_not_covered {cs : List Char}
    (h : ∀ c ∈ cs, ∀ l ∈ b.tail, l.covers c.toNat = false) :
    b.resolveEach cs = .ok (b.head.answerEach cs) := by
  induction cs with
  | nil => rfl
  | cons c cs ih =>
    have hc : b.resolve c = .ok (b.head.answerChar c.toNat) := by
      rw [resolve_eq, resolveOver_of_not_covered (h c List.mem_cons_self)]
    have hcs := ih fun x hx => h x (List.mem_cons_of_mem c hx)
    simp only [resolveEach, hc, hcs, Dictionary.answerEach_cons]

/-- **A bundle without a tail gives the answers of its head** in walking order. -/
theorem run_of_no_tail (h : b.tail = []) (text : String) :
    b.run text = .ok (b.head.answerEach (b.walkingOrder text)) := by
  have hnone : ∀ c ∈ b.walkingOrder text, ∀ l ∈ b.tail, l.covers c.toNat = false := by
    rw [h]
    intro c _ l hl
    cases hl
  rw [run_eq_plainRun, plainRun, h, substituteTail, resolveEach_of_not_covered hnone]

end Bundle

/-! ## 3. Both ways -/

namespace Dictionary

/-- What is said of a dictionary, a text, and the bundles that have the dictionary as their head. -/
structure CharacterWise (d : Dictionary) (text : String) : Prop where
  /-- Applied to the text it gives the answers for the characters, put together. -/
  applied : d.apply text = String.join (text.toList.map fun c => d.answerChar c.toNat)
  /-- Where there is no fallback and no character is listed these make up the text, -/
  unlisted : d.fallback = none → (∀ c ∈ text.toList, d.chars.contains c.toNat = false) →
    String.join (text.toList.map fun c => d.answerChar c.toNat) = text
  /-- as they do for every text where nothing can change. -/
  unchanged : d.changesNothing = true →
    String.join (text.toList.map fun c => d.answerChar c.toNat) = text
  /-- Of two texts in a row each is translated for itself. -/
  distributes (other : String) : d.apply (text ++ other) = d.apply text ++ d.apply other
  /-- A bundle without a tail gives what its head gives; -/
  forwards {b : Bundle} : b.head = d → b.tail = [] → b.metadata.reverseOut = false →
    b.run text = .ok (d.apply text)
  /-- from the end of the text, the answers for the characters in opposite order. -/
  backwards {b : Bundle} : b.head = d → b.tail = [] → b.metadata.reverseOut = true →
    b.run text = .ok (String.join (text.toList.map fun c => d.answerChar c.toNat).reverse)

/-- **Both ways of taking a text character by character come to the same**, for every dictionary and
every text. -/
theorem engines_agree (d : Dictionary) (text : String) : d.CharacterWise text where
  applied := d.apply_eq text
  unlisted h hcs := (answerEach_of_not_listed h hcs).trans String.ofList_toList
  unchanged h := by
    obtain ⟨hfallback, hfree⟩ := changesNothing_iff.1 h
    exact (answerEach_of_not_listed hfallback fun c _ => hfree c.toNat).trans String.ofList_toList
  distributes other := by
    rw [apply_eq, apply_eq, apply_eq, String.toList_append, answerEach_append]
  forwards {b} hhead htail hforwards := by
    rw [b.run_of_no_tail htail, hhead, apply_eq, Bundle.walkingOrder, hforwards]
    rfl
  backwards {b} hhead htail hback := by
    rw [b.run_of_no_tail htail, hhead, Bundle.walkingOrder, hback, ← List.map_reverse]
    rfl

end Dictionary

end AnyEngine

namespace Dictionary

/-- An entry with a marker, one under a name, and a fallback that deletes. -/
def deleting : Dictionary :=
  ofList [(.codePoint 97, "<\uFFFC>"), (.named "ab", "x"), (.fallback, "")]

/-- The same entry and the name, without a fallback. -/
def keeping : Dictionary := deleting.erase .fallback

/-- The fallback deletes what is not listed, the marker among it; without it all of this stays, and
where there is only a name the whole text does. From the end the answers change places. -/
theorem engines_agree_deleting :
    deleting.apply ("a-" ++ "\uFFFCa") = "<a><a>" ∧
      keeping.apply "\uFFFCb" = "\uFFFCb" ∧
      (ofList [(.named "ab", "x")]).apply "ab" = "ab" ∧
      Bundle.run ⟨"keep", .empty, keeping, [], []⟩ "ab" = .ok "<a>b" ∧
      Bundle.run ⟨"flip", { Metadata.empty with reverseOut := true }, keeping, [], []⟩ "ab" =
        .ok "b<a>" := by
  refine ⟨?_, ?_, ?_, ?_, ?_⟩
  · rw [(engines_agree deleting _).distributes, (engines_agree deleting _).applied,
      (engines_agree deleting _).applied]
    decide +kernel
  · have hunlisted : ∀ c ∈ ['\uFFFC', 'b'], keeping.chars.contains c.toNat = false := by
      rw [List.forall_mem_cons, List.forall_mem_singleton]
      decide +kernel
    exact (engines_agree keeping _).applied.trans ((engines_agree keeping _).unlisted rfl hunlisted)
  · exact (engines_agree _ _).applied.trans ((engines_agree _ _).unchanged rfl)
  · have happlied : keeping.apply "ab" = "<a>b" :=
      (engines_agree keeping "ab").applied.trans (by decide +kernel)
    rw [(engines_agree keeping "ab").forwards rfl rfl rfl, happlied]
  · rw [(engines_agree keeping "ab").backwards rfl rfl rfl]
    exact congrArg Except.ok (by decide +kernel)

end Dictionary

end Lettering
