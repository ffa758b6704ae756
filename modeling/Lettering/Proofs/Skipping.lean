import Lettering.Bundle.Chain
import Lettering.Bundle.Draft
import Lettering.Regex.Machine
import Lettering.Proofs.Resolving

/-!
# Running without skipping

A chain passes over a bundle that has nothing to do, and a bundle gives back a text that none of
its rules touches. This file states what running a text means when nothing is passed over, and
proves that no shortcut shows in the result:

* `Bundle.plainRun` makes every substitution of the tail, whether it matches or not, and then
  resolves every character in walking order, whether it is touched or not;
* `run_of_not_concerns`: a text that a bundle is not concerned with comes out as it went in, also
  where characters are put out from the end;
* `Chain.shortcuts_invisible` puts the three together for a whole chain.
-/

namespace Lettering

/-! ## 1. Plain semantics -/

section AnyEngine

variable [Regex.Engine]

namespace Bundle

/-- The text with the substitutions of a tail made one after the other. -/
def substituteTail (text : String) : List TailRule → String
  | [] => text
  | .substitution s :: rest => substituteTail (s.apply text) rest
  | .shift _ :: rest => substituteTail text rest
  | .intervals _ :: rest => substituteTail text rest

/-- The characters resolved one after the other; the first failure ends it. -/
def resolveEach (b : Bundle) : List Char → Except StageError String
  | [] => .ok ""
  | c :: cs =>
    match b.resolve c with
    | .error e => .error (.lookup b.name e)
    | .ok part =>
      match b.resolveEach cs with
      | .error e => .error e
      | .ok rest => .ok (part ++ rest)

/-- The order in which the characters of a text are walked. -/
def walkingOrder (b : Bundle) (text : String) : List Char :=
  if b.metadata.reverseOut then text.toList.reverse else text.toList

/-- What a text becomes when every substitution is made and every character resolved. -/
def plainRun (b : Bundle) (text : String) : Except StageError String :=
  b.resolveEach (b.walkingOrder (substituteTail text b.tail))

end Bundle

/-- What a text becomes when no stage is passed over. -/
def Chain.plainRun : List Bundle → String → Except StageError String
  | [], text => .ok text
  | b :: stages, text =>
    match b.plainRun text with
    | .error e => .error e
    | .ok out => plainRun stages out

/-! ## 2. Substitutions -/

/-- A pattern that matches nowhere leaves the text as it is. -/
theorem Substitution.apply_of_not_isMatch {s : Substitution} {text : String}
    (h : s.isMatch text = false) : s.apply text = text :=
  Regex.replaceAll_of_not_isMatch h _

namespace Bundle

theorem substituteAll_eq_substituteTail (b : Bundle) (text : String) :
    b.substituteAll text = substituteTail text b.tail := by
  unfold substituteAll substitutions
  induction b.tail generalizing text with
  | nil => rfl
  | cons l rest ih =>
    cases l with
    | shift | intervals => exact ih text
    | substitution s => exact ih (s.apply text)

/-- Where no pattern matches, all substitutions together leave the text as it is. -/
theorem substituteAll_of_no_match {b : Bundle} {text : String}
    (h : b.substitutions.any (·.isMatch text) = false) : b.substituteAll text = text := by
  unfold substituteAll
  rw [List.any_eq_false] at h
  generalize b.substitutions = ss at h ⊢
  induction ss with
  | nil => rfl
  | cons s rest ih =>
    have hs : s.apply text = text :=
      Substitution.apply_of_not_isMatch (by simpa using h s List.mem_cons_self)
    rw [List.foldl_cons, hs]
    exact ih fun x hx => h x (List.mem_cons_of_mem s hx)

/-! ## 3. Characters -/

/-- Characters that no rule touches come out as they are. -/
theorem resolveEach_of_not_touches {b : Bundle} {cs : List Char}
    (h : cs.any b.touches = false) : b.resolveEach cs = .ok (String.ofList cs) := by
  rw [List.any_eq_false] at h
  induction cs with
  | nil => rfl
  | cons c cs ih =>
    have hc : b.resolve c = .ok (String.singleton c) :=
      resolve_of_not_touches (by simpa using h c List.mem_cons_self)
    have hcs := ih fun x hx => h x (List.mem_cons_of_mem c hx)
    simp only [resolveEach, hc, hcs, Except.ok.injEq]
    rw [← List.singleton_append, String.ofList_append, String.singleton_eq_ofList]

/-- Bundles of one name that resolve each of the characters alike resolve them alike in a row. -/
theorem resolveEach_congr {b b' : Bundle} (hname : b.name = b'.name) {cs : List Char}
    (h : ∀ c ∈ cs, b.resolve c = b'.resolve c) : b.resolveEach cs = b'.resolveEach cs := by
  induction cs with
  | nil => rfl
  | cons c cs ih =>
    rw [resolveEach, resolveEach, h c List.mem_cons_self,
      ih fun x hx => h x (List.mem_cons_of_mem c hx), hname]

/-- Resolving all characters and putting them together is resolving one after the other. -/
theorem resolveAll_eq_resolveEach (b : Bundle) (cs : List Char) :
    b.resolveAll cs = b.resolveEach cs := by
  induction cs with
  | nil => rfl
  | cons c cs ih =>
    unfold resolveAll at ih ⊢
    rw [List.mapM_cons, resolveEach, ← ih]
    cases b.resolve c with
    | error e => rfl
    | ok part =>
      cases cs.mapM b.resolve with
      | error e => rfl
      | ok parts => exact congrArg Except.ok String.join_cons

/-! ## 4. One bundle -/

/-- A text that is walked backwards although a bundle is not concerned with it has at most one
character, so the walking order is that of the text. -/
theorem walkingOrder_of_not_concerns {b : Bundle} {text : String}
    (h : b.concerns text = false) : b.walkingOrder text = text.toList := by
  simp only [concerns, Bool.or_eq_false_iff, Bool.and_eq_false_iff] at h
  unfold walkingOrder
  split
  · rename_i hback
    have hshort : text.toList.length ≤ 1 := by
      rcases h.1.2 with hf | hl
      · rw [hback] at hf
        cases hf
      · rw [String.length_toList]
        simpa using hl
    match text.toList, hshort with
    | [], _ => rfl
    | [c], _ => rfl
  · rfl

/-- **The shortcut of a bundle does not show.** -/
theorem run_eq_plainRun (b : Bundle) (text : String) : b.run text = b.plainRun text := by
  unfold run plainRun walkingOrder
  rw [← substituteAll_eq_substituteTail]
  dsimp only
  split
  · exact b.resolveAll_eq_resolveEach _
  · split
    · exact b.resolveAll_eq_resolveEach _
    · rename_i huntouched
      rw [resolveEach_of_not_touches (by simpa using huntouched), String.ofList_toList]

/-- **A text that a bundle is not concerned with comes out as it went in.** -/
theorem run_of_not_concerns {b : Bundle} {text : String} (h : b.concerns text = false) :
    b.run text = .ok text := by
  have hwalk := walkingOrder_of_not_concerns h
  simp only [concerns, Bool.or_eq_false_iff] at h
  obtain ⟨⟨hmatch, -⟩, htouch⟩ := h
  rw [run_eq_plainRun, plainRun, ← substituteAll_eq_substituteTail,
    substituteAll_of_no_match hmatch, hwalk, resolveEach_of_not_touches htouch,
    String.ofList_toList]

end Bundle

/-! ## 5. Chains -/

namespace Chain

/-- Passing over a stage gives what running it would give. -/
theorem runStage_eq_plainRun (b : Bundle) (text : String) :
    runStage text b = b.plainRun text := by
  rw [← Bundle.run_eq_plainRun]
  unfold runStage
  split
  · rfl
  · rename_i hidle
    exact (Bundle.run_of_not_concerns (by simpa using hidle)).symm

/-- A chain gives what its stages give when none is passed over. -/
theorem run_eq_plainRun (stages : List Bundle) (text : String) :
    run ⟨stages⟩ text = plainRun stages text := by
  show stages.foldlM runStage text = plainRun stages text
  induction stages generalizing text with
  | nil => rfl
  | cons b stages ih =>
    rw [List.foldlM_cons, runStage_eq_plainRun, plainRun]
    cases b.plainRun text with
    | error e => rfl
    | ok out => exact ih out

/-- **No shortcut shows.** A chain gives exactly the text or the failure of its plain semantics,
whatever the engine, its stages and the text. In particular a stage that is passed over would have
given the text back, and a character that no rule touches resolves to itself. -/
theorem shortcuts_invisible (stages : List Bundle) (text : String) :
    run ⟨stages⟩ text = plainRun stages text ∧
      (∀ (b : Bundle) (t : String), b.concerns t = false → b.run t = .ok t) ∧
      ∀ (b : Bundle) (c : Char), b.touches c = false → b.resolve c = .ok (String.singleton c) :=
  ⟨run_eq_plainRun stages text, fun _ _ h => Bundle.run_of_not_concerns h,
    fun _ _ h => Bundle.resolve_of_not_touches h⟩

end Chain

end AnyEngine

namespace Chain

/-- A text of one character is passed over by a bundle that puts characters out from the end, and
the marker resolves to itself there; two characters change places. -/
theorem shortcuts_invisible_backwards :
    ∃ b, Bundle.build "flip" [((RuleSet.new "flip").backwards true).addChar "a" "ɐ"] ⟨0, true⟩ =
        .ok b ∧
      run ⟨[b]⟩ "ab" = .ok "bɐ" ∧
      b.concerns "\uFFFC" = false ∧ b.run "\uFFFC" = .ok "\uFFFC" ∧
      b.touches Marker.char = false ∧ b.resolve Marker.char = .ok "\uFFFC" := by
  have hbuilt : Bundle.build "flip" [((RuleSet.new "flip").backwards true).addChar "a" "ɐ"]
      ⟨0, true⟩ = .ok _ := rfl
  obtain ⟨hrun, hidle, htouch⟩ := shortcuts_invisible [_] "ab"
  refine ⟨_, hbuilt, hrun.trans ?_, ?_, hidle _ _ ?_, ?_, htouch _ _ ?_⟩
  · rfl
  all_goals decide +kernel

end Chain

end Lettering
