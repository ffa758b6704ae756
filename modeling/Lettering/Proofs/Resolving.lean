import Lettering.Bundle.Basic
import Lettering.Proofs.Filling
import Lettering.Proofs.Last

/-!
# How a character resolves

A bundle looks for the last rule of its tail that covers a character and asks the head where there
is none. Here that search is the `lastAnswer?` of the tail, so that a tail may be taken apart:

* `Bundle.resolve_eq`: resolving depends on head and tail only, as `resolveOver`;
* `resolveOver_cons`, `resolveOver_of_covered`: the first rule of a tail decides only where no
  other one covers the character, and the head only where no rule does;
* `Bundle.resolve_of_not_touches`: a character that no rule touches resolves to itself.
-/

namespace Lettering

/-! ## 1. The head -/

/-- The head's answer for a character: its entry or the fallback with the character in place of
each marker, and the character itself where there is neither. -/
theorem Dictionary.answerChar_toNat (d : Dictionary) (c : Char) :
    d.answerChar c.toNat =
      match (d.chars[c.toNat]?).or d.fallback with
      | some value => Marker.withChar c value
      | none => String.singleton c := by
  rw [answerChar, Marker.fillChar_toNat, fallbackText]
  cases d.chars[c.toNat]? with
  | some value => rfl
  | none =>
    cases d.fallback with
    | some value => rfl
    | none => exact Marker.withChar_text c

/-- A character without an entry answers with itself where there is no fallback. -/
theorem Dictionary.answerChar_of_not_listed {d : Dictionary} {c : Char} (h : d.fallback = none)
    (hfree : d.chars.contains c.toNat = false) : d.answerChar c.toNat = String.singleton c := by
  have hnone : d.chars[c.toNat]? = none :=
    Std.ExtTreeMap.getElem?_eq_none_of_contains_eq_false hfree
  rw [answerChar_toNat, hnone, h]
  rfl

/-! ## 2. Rules of the tail -/

variable [Regex.Engine]

/-- What a rule of the tail answers for a character, if it covers it. -/
def TailRule.answer? (c : Char) (l : TailRule) : Option (Except LookupError String) :=
  if l.covers c.toNat then some (l.answer c.toNat) else none

theorem TailRule.answer?_eq_none_iff {c : Char} {l : TailRule} :
    l.answer? c = none ↔ l.covers c.toNat = false := by
  unfold TailRule.answer?
  split <;> simp_all

/-! ## 3. Head and tail -/

/-- The meaning of a character over a head and a tail. -/
def resolveOver (head : Dictionary) (tail : List TailRule) (c : Char) :
    Except LookupError String :=
  (lastAnswer? (TailRule.answer? c) tail).getD (.ok (head.answerChar c.toNat))

theorem Bundle.resolve_eq (b : Bundle) (c : Char) :
    b.resolve c = resolveOver b.head b.tail c := by
  have hanswer : TailRule.answer? c =
      fun l => (Option.guard (fun l : TailRule => l.covers c.toNat) l).map (·.answer c.toNat) := by
    funext l
    unfold TailRule.answer?
    cases hc : l.covers c.toNat <;> simp [Option.guard, hc]
  unfold Bundle.resolve resolveOver Bundle.decider?
  rw [hanswer, ← lastAnswer?_map, lastAnswer?_guard]
  cases b.tail.reverse.find? fun l => l.covers c.toNat <;> rfl

/-- Where no rule of the tail covers the character, the head answers. -/
theorem resolveOver_of_not_covered {tail : List TailRule} {c : Char}
    (h : ∀ l ∈ tail, l.covers c.toNat = false) (head : Dictionary) :
    resolveOver head tail c = .ok (head.answerChar c.toNat) := by
  have hnone : lastAnswer? (TailRule.answer? c) tail = none :=
    lastAnswer?_eq_none_iff.2 fun l hl => TailRule.answer?_eq_none_iff.2 (h l hl)
  rw [resolveOver, hnone, Option.getD_none]

/-- Where some rule of the tail covers the character, there is a last answer. -/
theorem exists_lastAnswer?_of_covered {tail : List TailRule} {c : Char}
    (h : ∃ l ∈ tail, l.covers c.toNat = true) :
    ∃ answer, lastAnswer? (TailRule.answer? c) tail = some answer := by
  obtain ⟨l, hl, hc⟩ := h
  cases ha : lastAnswer? (TailRule.answer? c) tail with
  | some answer => exact ⟨answer, rfl⟩
  | none =>
    have hn := TailRule.answer?_eq_none_iff.1 (lastAnswer?_eq_none_iff.1 ha l hl)
    rw [hc] at hn
    cases hn

/-- Where a rule of the tail covers the character, the head has no say. -/
theorem resolveOver_of_covered {tail : List TailRule} {c : Char}
    (h : ∃ l ∈ tail, l.covers c.toNat = true) (head head' : Dictionary) :
    resolveOver head tail c = resolveOver head' tail c := by
  obtain ⟨answer, ha⟩ := exists_lastAnswer?_of_covered h
  rw [resolveOver, resolveOver, ha, Option.getD_some, Option.getD_some]

/-- Where a later rule covers the character, the first one has no say. -/
theorem resolveOver_cons_of_covered {tail : List TailRule} {c : Char}
    (h : ∃ l ∈ tail, l.covers c.toNat = true) (head : Dictionary) (first : TailRule) :
    resolveOver head (first :: tail) c = resolveOver head tail c := by
  obtain ⟨answer, ha⟩ := exists_lastAnswer?_of_covered h
  rw [resolveOver, resolveOver, lastAnswer?_cons, ha, Option.some_or]

/-- Where no later rule covers the character, the first one decides if it does. -/
theorem resolveOver_cons_of_not_covered {tail : List TailRule} {c : Char}
    (h : ∀ l ∈ tail, l.covers c.toNat = false) (head : Dictionary) (first : TailRule) :
    resolveOver head (first :: tail) c =
      (first.answer? c).getD (.ok (head.answerChar c.toNat)) := by
  have hnone : lastAnswer? (TailRule.answer? c) tail = none :=
    lastAnswer?_eq_none_iff.2 fun l hl => TailRule.answer?_eq_none_iff.2 (h l hl)
  rw [resolveOver, lastAnswer?_cons, hnone, Option.none_or]

/-- A substitution has no say about single characters. -/
theorem resolveOver_cons_substitution (head : Dictionary) (s : Substitution)
    (tail : List TailRule) (c : Char) :
    resolveOver head (.substitution s :: tail) c = resolveOver head tail c := by
  have hnone : TailRule.answer? c (.substitution s) = none :=
    TailRule.answer?_eq_none_iff.2 rfl
  rw [resolveOver, lastAnswer?_cons, hnone, Option.or_none, resolveOver]

/-! ## 4. Characters that no rule touches -/

namespace Bundle

/-- **A character that no rule touches resolves to itself.** -/
theorem resolve_of_not_touches {b : Bundle} {c : Char} (h : b.touches c = false) :
    b.resolve c = .ok (String.singleton c) := by
  simp only [touches, Bool.or_eq_false_iff] at h
  obtain ⟨⟨hfallback, hentry⟩, htail⟩ := h
  have hnone : b.head.fallback = none := by simpa using hfallback
  have hopen : ∀ l ∈ b.tail, l.covers c.toNat = false := fun l hl => by
    simpa using List.any_eq_false.1 htail l hl
  rw [resolve_eq, resolveOver_of_not_covered hopen, Dictionary.answerChar_of_not_listed hnone hentry]

end Bundle

end Lettering
