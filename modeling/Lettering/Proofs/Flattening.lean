import Lettering.Proofs.Building
import Lettering.Proofs.Shifting
import Lettering.Proofs.Skipping

/-!
# Flattening keeps the meaning

A flattened bundle holds the shifts before the first interval map as entries of its head; the plain
one keeps them in the tail, where they outrank the head.

* `Folds` says what folding does with a head and a tail, one rule after the other: a shift is
  written into the head, a substitution is kept, and at an interval map folding stops.
* Along `Folds` the substitutions, the characters touched and the meaning of every character stay
  the same (`Folds.substitutions`, `Folds.touched_iff`, `Folds.resolveOver_eq`), with one exception:
  an entry that is the marker is filled, the image of a shift is not (`ShiftsToMarker`,
  `Folds.resolveOver_marker`).
* `Bundle.flattened_agrees` compares the two bundles of the same layers.
-/

namespace Lettering

/-! ## 1. Shifts in the head -/

namespace Shift

/-- A shift written into the head answers where it covers the character, with its image filled. -/
theorem answerChar_written {head next : Dictionary} {l : Shift} (hw : l.writeInto head = .ok next)
    {c : Char} (hc : l.covers c.toNat = true) :
    ∃ d, l.image c.toNat = .ok d ∧
      next.answerChar c.toNat = Marker.withChar c (String.singleton d) := by
  obtain ⟨d, hi, hd⟩ := find?_writeInto_of_covers hw hc
  have hd' : next.chars[c.toNat]? = some (String.singleton d) := hd
  refine ⟨d, hi, ?_⟩
  rw [Dictionary.answerChar_toNat, hd', Option.some_or]

/-- Where it does not cover the character, the head answers as before. -/
theorem answerChar_unwritten {head next : Dictionary} {l : Shift} (hw : l.writeInto head = .ok next)
    {c : Char} (hc : l.covers c.toNat = false) :
    next.answerChar c.toNat = head.answerChar c.toNat := by
  have hentry : next.chars[c.toNat]? = head.chars[c.toNat]? :=
    find?_writeInto_of_not_covers hw (.codePoint c.toNat) fun k hk => by
      cases hk
      exact hc
  have hfallback : next.fallback = head.fallback :=
    find?_writeInto_of_not_covers hw .fallback fun k hk => by cases hk
  rw [Dictionary.answerChar_toNat, Dictionary.answerChar_toNat, hentry, hfallback]

end Shift

section AnyEngine

variable [Regex.Engine]

/-! ## 2. What folding does -/

/-- Whether a rule of the tail is a shift. -/
def TailRule.isShift : TailRule → Bool
  | shift _ => true
  | _ => false

/-- **Folding, rule by rule**: from a head and a tail to the head written to and the tail kept. -/
inductive Folds : Dictionary → List TailRule → Dictionary → List TailRule → Prop where
  | done (head : Dictionary) : Folds head [] head []
  | written {head next head' : Dictionary} {l : Shift} {rest kept : List TailRule}
      (hw : l.writeInto head = .ok next) (h : Folds next rest head' kept) :
      Folds head (.shift l :: rest) head' kept
  | passed {head head' : Dictionary} {rest kept : List TailRule} (s : Substitution)
      (h : Folds head rest head' kept) :
      Folds head (.substitution s :: rest) head' (.substitution s :: kept)
  | stopped (head : Dictionary) (t : IntervalMap String) (rest : List TailRule) :
      Folds head (.intervals t :: rest) head (.intervals t :: rest)

namespace Draft

/-- Behind an interval map nothing is folded. -/
theorem foldShifts_past (head : Dictionary) (tail : List TailRule) :
    foldShifts head true tail = .ok (head, tail) := by
  induction tail with
  | nil => rfl
  | cons l rest ih =>
    cases l with
    | shift | intervals | substitution =>
      simp only [foldShifts, Bool.true_or, ↓reduceIte, ih]
      rfl

theorem folds_of_foldShifts {head head' : Dictionary} {tail kept : List TailRule}
    (h : foldShifts head false tail = .ok (head', kept)) : Folds head tail head' kept := by
  induction tail generalizing head head' kept with
  | nil =>
    have he := Except.ok.inj h
    obtain ⟨rfl, rfl⟩ := Prod.mk.inj he
    exact .done head
  | cons l rest ih =>
    cases l with
    | shift l =>
      simp only [foldShifts, Bool.false_eq_true, ↓reduceIte] at h
      obtain ⟨next, hw, hrest⟩ := exists_of_bind_ok h
      exact .written hw (ih hrest)
    | intervals t =>
      simp only [foldShifts, TailRule.isIntervals, Bool.false_or, foldShifts_past] at h
      obtain ⟨rfl, rfl⟩ := Prod.mk.inj (Except.ok.inj h)
      exact .stopped head t rest
    | substitution s =>
      simp only [foldShifts, TailRule.isIntervals, Bool.or_self] at h
      obtain ⟨out, hr, hout⟩ := exists_of_bind_ok h
      obtain ⟨rfl, rfl⟩ := Prod.mk.inj (Except.ok.inj hout)
      exact .passed s (ih hr)

end Draft

/-! ## 3. What folding keeps -/

namespace Folds

variable {head head' : Dictionary} {tail kept : List TailRule}

/-- No fallback is written. -/
theorem fallback (h : Folds head tail head' kept) : head'.fallback = head.fallback := by
  induction h with
  | done | stopped => rfl
  | written hw _ ih =>
    rw [ih]
    exact Shift.find?_writeInto_of_not_covers hw .fallback fun k hk => by cases hk
  | passed s _ ih => exact ih

/-- The substitutions stay, in their order. -/
theorem substitutions (h : Folds head tail head' kept) :
    kept.filterMap TailRule.substitution? = tail.filterMap TailRule.substitution? := by
  induction h with
  | done | stopped => rfl
  | written _ _ ih => exact ih
  | passed s _ ih => exact congrArg (s :: ·) ih

/-- **The tail that is kept**: up to the first interval map what is no shift, and from there on
everything. -/
theorem kept_eq (h : Folds head tail head' kept) :
    kept = (tail.takeWhile (!·.isIntervals)).filter (!·.isShift) ++
      tail.dropWhile (!·.isIntervals) := by
  induction h with
  | done | stopped => rfl
  | written _ _ ih => exact ih
  | passed s _ ih => exact congrArg (.substitution s :: ·) ih

/-- A key that had an entry or was covered has an entry or is covered afterwards, and no other
key. -/
theorem touched_iff (h : Folds head tail head' kept) (key : Nat) :
    (head'.chars.contains key = true ∨ ∃ l ∈ kept, l.covers key = true) ↔
      (head.chars.contains key = true ∨ ∃ l ∈ tail, l.covers key = true) := by
  induction h with
  | done | stopped => exact Iff.rfl
  | @written head next head' l rest kept hw _ ih =>
    have hnext : next.chars.contains key = true ↔
        (head.chars.contains key = true ∨ l.covers key = true) := by
      rw [Std.ExtTreeMap.contains_eq_isSome_getElem?, Std.ExtTreeMap.contains_eq_isSome_getElem?]
      cases hc : l.covers key with
      | true =>
        obtain ⟨d, -, hd⟩ := Shift.find?_writeInto_of_covers hw hc
        have hd' : next.chars[key]? = some (String.singleton d) := hd
        simp [hd']
      | false =>
        have hsame : next.chars[key]? = head.chars[key]? :=
          Shift.find?_writeInto_of_not_covers hw (.codePoint key) fun k hk => by
            cases hk
            exact hc
        simp [hsame]
    rw [ih, hnext, or_assoc]
    refine or_congr_right ⟨?_, ?_⟩
    · rintro (hc | ⟨r, hr, hc⟩)
      · exact ⟨.shift l, List.mem_cons_self, hc⟩
      · exact ⟨r, List.mem_cons_of_mem _ hr, hc⟩
    · rintro ⟨r, hr, hc⟩
      rcases List.mem_cons.1 hr with rfl | hr
      · exact Or.inl hc
      · exact Or.inr ⟨r, hr, hc⟩
  | @passed head head' rest kept s _ ih =>
    have hskip : ∀ rs : List TailRule, (∃ r ∈ TailRule.substitution s :: rs, r.covers key = true) ↔
        ∃ r ∈ rs, r.covers key = true := fun rs => by simp [TailRule.covers]
    rw [hskip, hskip, ih]

end Folds

/-! ## 4. The exception -/

/-- The rule of a tail that decides for a character is a shift before every interval map, and the
image of the character is the marker. -/
def ShiftsToMarker (tail : List TailRule) (c : Char) : Prop :=
  ∃ before l behind, tail = before ++ .shift l :: behind ∧
    (∀ r ∈ before, r.isIntervals = false) ∧ l.image c.toNat = .ok Marker.char ∧
    ∀ r ∈ behind, r.covers c.toNat = false

theorem ShiftsToMarker.covered {tail : List TailRule} {c : Char} (h : ShiftsToMarker tail c) :
    ∃ r ∈ tail, r.covers c.toNat = true := by
  obtain ⟨before, l, behind, rfl, -, hi, -⟩ := h
  exact ⟨.shift l, by simp, Shift.covers_of_image hi⟩

theorem not_shiftsToMarker_nil (c : Char) : ¬ ShiftsToMarker [] c := fun h => by
  obtain ⟨r, hr, -⟩ := h.covered
  exact absurd hr List.not_mem_nil

/-- Behind an interval map nothing is folded. -/
theorem not_shiftsToMarker_intervals (t : IntervalMap String) (rest : List TailRule) (c : Char) :
    ¬ ShiftsToMarker (.intervals t :: rest) c := by
  rintro ⟨before, l, behind, he, hb, -, -⟩
  cases before with
  | nil => cases he
  | cons r before =>
    obtain ⟨rfl, -⟩ := List.cons.inj he
    have hr := hb _ List.mem_cons_self
    cases hr

/-- An exception of a tail is one behind any rule that is no interval map. -/
theorem ShiftsToMarker.cons {first : TailRule} (hf : first.isIntervals = false)
    {rest : List TailRule} {c : Char} (h : ShiftsToMarker rest c) :
    ShiftsToMarker (first :: rest) c := by
  obtain ⟨before, l, behind, rfl, hb, hi, hn⟩ := h
  refine ⟨first :: before, l, behind, rfl, fun x hx => ?_, hi, hn⟩
  rcases List.mem_cons.1 hx with rfl | hx
  · exact hf
  · exact hb x hx

theorem shiftsToMarker_substitution_iff {s : Substitution} {rest : List TailRule} {c : Char} :
    ShiftsToMarker (.substitution s :: rest) c ↔ ShiftsToMarker rest c := by
  constructor
  · rintro ⟨before, l, behind, he, hb, hi, hn⟩
    cases before with
    | nil => cases he
    | cons r before =>
      obtain ⟨-, rfl⟩ := List.cons.inj he
      exact ⟨before, l, behind, rfl, fun x hx => hb x (List.mem_cons_of_mem _ hx), hi, hn⟩
  · exact ShiftsToMarker.cons rfl

/-- A shift in front makes an exception where a later rule does, and where it decides itself. -/
theorem shiftsToMarker_shift_iff {l : Shift} {rest : List TailRule} {c : Char} :
    ShiftsToMarker (.shift l :: rest) c ↔
      ShiftsToMarker rest c ∨
        (l.image c.toNat = .ok Marker.char ∧ ∀ r ∈ rest, r.covers c.toNat = false) := by
  constructor
  · rintro ⟨before, l', behind, he, hb, hi, hn⟩
    cases before with
    | nil =>
      obtain ⟨h, rfl⟩ := List.cons.inj he
      cases h
      exact Or.inr ⟨hi, hn⟩
    | cons r before =>
      obtain ⟨-, rfl⟩ := List.cons.inj he
      exact Or.inl
        ⟨before, l', behind, rfl, fun x hx => hb x (List.mem_cons_of_mem _ hx), hi, hn⟩
  · rintro (h | ⟨hi, hn⟩)
    · exact h.cons rfl
    · exact ⟨[], l, rest, rfl, fun x hx => absurd hx List.not_mem_nil, hi, hn⟩

/-- Whether a shift takes a key to a character can be decided. -/
instance (l : Shift) (key : Nat) (d : Char) : Decidable (l.image key = .ok d) :=
  match l.image key with
  | .ok d' => decidable_of_iff (d' = d) (by rw [Except.ok.injEq])
  | .error _ => isFalse fun h => by cases h

/-- Whether a tail makes the exception can be decided, rule by rule. -/
instance decidableShiftsToMarker : (tail : List TailRule) → (c : Char) →
    Decidable (ShiftsToMarker tail c)
  | [], c => isFalse (not_shiftsToMarker_nil c)
  | .intervals t :: rest, c => isFalse (not_shiftsToMarker_intervals t rest c)
  | .substitution _ :: rest, c =>
    have := decidableShiftsToMarker rest c
    decidable_of_iff _ shiftsToMarker_substitution_iff.symm
  | .shift _ :: rest, c =>
    have := decidableShiftsToMarker rest c
    decidable_of_iff _ shiftsToMarker_shift_iff.symm

/-! ## 5. Meaning -/

namespace Folds

variable {head head' : Dictionary} {tail kept : List TailRule}

/-- **Where no shift goes to the marker, folding keeps the meaning.** -/
theorem resolveOver_eq (h : Folds head tail head' kept) {c : Char}
    (hm : ¬ ShiftsToMarker tail c) : resolveOver head' kept c = resolveOver head tail c := by
  induction h with
  | done | stopped => rfl
  | @written head next head' l rest kept hw _ ih =>
    rw [shiftsToMarker_shift_iff, not_or] at hm
    obtain ⟨hrest, hfirst⟩ := hm
    rw [ih hrest]
    by_cases hcov : ∃ r ∈ rest, r.covers c.toNat = true
    · -- a later rule decides, before and after
      rw [resolveOver_cons_of_covered hcov, resolveOver_of_covered hcov]
    · have hopen : ∀ r ∈ rest, r.covers c.toNat = false := fun r hr => by
        cases hc : r.covers c.toNat with
        | false => rfl
        | true => exact absurd ⟨r, hr, hc⟩ hcov
      rw [resolveOver_of_not_covered hopen, resolveOver_cons_of_not_covered hopen,
        TailRule.answer?]
      cases hc : l.covers c.toNat with
      | true =>
        obtain ⟨d, hi, ha⟩ := Shift.answerChar_written hw hc
        have hd : d ≠ Marker.char := fun e => hfirst ⟨e ▸ hi, hopen⟩
        rw [ha, Marker.withChar_singleton_of_ne c hd]
        simp only [TailRule.covers, hc, ↓reduceIte, Option.getD_some]
        exact (Shift.answer_of_image hi).symm
      | false =>
        rw [Shift.answerChar_unwritten hw hc]
        simp only [TailRule.covers, hc, Bool.false_eq_true, ↓reduceIte, Option.getD_none]
  | passed s _ ih =>
    rw [resolveOver_cons_substitution, resolveOver_cons_substitution,
      ih fun hr => hm (shiftsToMarker_substitution_iff.2 hr)]

/-- **Where a shift goes to the marker**, the tail answers with the marker and the folded head with
the character itself. -/
theorem resolveOver_marker (h : Folds head tail head' kept) {c : Char}
    (hm : ShiftsToMarker tail c) :
    resolveOver head tail c = .ok Marker.text ∧
      resolveOver head' kept c = .ok (String.singleton c) := by
  induction h with
  | done => exact absurd hm (not_shiftsToMarker_nil c)
  | stopped head t rest => exact absurd hm (not_shiftsToMarker_intervals t rest c)
  | @written head next head' l rest kept hw hfold ih =>
    rcases shiftsToMarker_shift_iff.1 hm with hr | ⟨hi, hopen⟩
    · rw [resolveOver_cons_of_covered hr.covered, resolveOver_of_covered hr.covered head next]
      exact ih hr
    · have hc := Shift.covers_of_image hi
      obtain ⟨d, hi', ha⟩ := Shift.answerChar_written hw hc
      have hnone : ¬ ShiftsToMarker rest c := fun hr => by
        obtain ⟨r, hr, hcov⟩ := hr.covered
        rw [hopen r hr] at hcov
        cases hcov
      rw [hi] at hi'
      cases hi'
      constructor
      · rw [resolveOver_cons_of_not_covered hopen, TailRule.answer?]
        simp only [TailRule.covers, hc, ↓reduceIte, Option.getD_some]
        exact Shift.answer_of_image hi
      · rw [resolveOver_eq hfold hnone, resolveOver_of_not_covered hopen, ha]
        exact congrArg Except.ok (Marker.withChar_text c)
  | passed s _ ih =>
    rw [resolveOver_cons_substitution, resolveOver_cons_substitution]
    exact ih (shiftsToMarker_substitution_iff.1 hm)

end Folds

/-! ## 6. Bundles -/

namespace Bundle

/-- A flattened bundle is the plain one with its tail folded into its head, entries of several
characters apart. -/
theorem exists_folds_of_build {name : String} {layers : List RuleSet} {alternate : Nat}
    {flat : Bundle} (h : build name layers ⟨alternate, true⟩ = .ok flat) :
    ∃ plain, build name layers ⟨alternate, false⟩ = .ok plain ∧
      Folds { plain.head with named := ∅ } plain.tail flat.head flat.tail ∧
      flat.name = plain.name ∧ flat.metadata = plain.metadata := by
  obtain ⟨d, d', hd, hf, rfl⟩ := exists_of_build_flat h
  obtain ⟨head, tail, hfold, rfl, rfl, -⟩ := Draft.exists_of_flatten hf
  exact ⟨d.finish name layers, build_plain_of_ok hd, Draft.folds_of_foldShifts hfold, rfl, rfl⟩

/-- Bundles that touch the same characters and make the same substitutions are concerned with the
same texts. -/
theorem concerns_congr {b b' : Bundle} (htouch : b.touches = b'.touches)
    (hsub : b.substitutions = b'.substitutions) (hmeta : b.metadata = b'.metadata)
    (text : String) : b.concerns text = b'.concerns text := by
  unfold concerns
  rw [htouch, hsub, hmeta]

/-- **Flattening does not change a translation.** Where the flattened bundle can be built so can the
plain one; both are concerned with the same texts, and every character means the same in both, but
for those that the plain one shifts to the marker: there it answers with the marker, and the
flattened one with the character. So a text comes out alike unless such a character is left in it
when the substitutions are made. -/
theorem flattened_agrees {name : String} {layers : List RuleSet} {alternate : Nat}
    {flat : Bundle} (h : build name layers ⟨alternate, true⟩ = .ok flat) :
    ∃ plain, build name layers ⟨alternate, false⟩ = .ok plain ∧
      (∀ text, flat.concerns text = plain.concerns text) ∧
      (∀ c, ¬ ShiftsToMarker plain.tail c → flat.resolve c = plain.resolve c) ∧
      (∀ c, ShiftsToMarker plain.tail c →
        plain.resolve c = .ok Marker.text ∧ flat.resolve c = .ok (String.singleton c)) ∧
      ∀ text, (∀ c ∈ (plain.substituteAll text).toList, ¬ ShiftsToMarker plain.tail c) →
        flat.run text = plain.run text := by
  obtain ⟨plain, hplain, hfold, hname, hmeta⟩ := exists_folds_of_build h
  have htouch : flat.touches = plain.touches := by
    funext c
    have hiff := hfold.touched_iff c.toNat
    have hfb : flat.head.fallback = plain.head.fallback := hfold.fallback
    rw [touches, touches, hfb, Bool.or_assoc, Bool.or_assoc]
    refine congrArg _ (Bool.eq_iff_iff.2 ?_)
    rw [Bool.or_eq_true, Bool.or_eq_true, List.any_eq_true, List.any_eq_true]
    exact hiff
  have hsub : flat.substitutions = plain.substitutions := hfold.substitutions
  have hsame : ∀ c, ¬ ShiftsToMarker plain.tail c → flat.resolve c = plain.resolve c :=
    fun c hm => by
      rw [resolve_eq, resolve_eq]
      exact hfold.resolveOver_eq hm
  have hmarker : ∀ c, ShiftsToMarker plain.tail c →
      plain.resolve c = .ok Marker.text ∧ flat.resolve c = .ok (String.singleton c) :=
    fun c hm => by
      rw [resolve_eq, resolve_eq]
      exact hfold.resolveOver_marker hm
  refine ⟨plain, hplain, concerns_congr htouch hsub hmeta, hsame, hmarker, fun text hfree => ?_⟩
  have hafter : flat.substituteAll text = plain.substituteAll text := by
    rw [substituteAll, substituteAll, hsub]
  rw [run_eq_plainRun, run_eq_plainRun, plainRun, plainRun, ← substituteAll_eq_substituteTail,
    ← substituteAll_eq_substituteTail, hafter, walkingOrder, walkingOrder, hmeta]
  refine resolveEach_congr hname fun c hc => hsame c (hfree c ?_)
  split at hc
  · exact List.mem_reverse.1 hc
  · exact hc

end Bundle

end AnyEngine

namespace Bundle

/-- A set with an offset rule that takes `A` to the marker, between a character rule and a range
rule. -/
def mixedSet : RuleSet :=
  (((RuleSet.new "mixed").addChar "a" "4").addOffset "up" ⟨65, 66, 65467⟩).addRange "boxed"
    ⟨[98, 100], ["<\uFFFC>"]⟩

/-- The two bundles of this set answer `A` differently and run a text without it alike. -/
theorem flattened_agrees_mixed :
    ∃ flat plain, build "mixed" [mixedSet] ⟨0, true⟩ = .ok flat ∧
      build "mixed" [mixedSet] ⟨0, false⟩ = .ok plain ∧
      ShiftsToMarker plain.tail 'A' ∧ plain.resolve 'A' = .ok "\uFFFC" ∧
      flat.resolve 'A' = .ok "A" ∧ flat.run "Bad" = plain.run "Bad" := by
  have hflat : build "mixed" [mixedSet] ⟨0, true⟩ = .ok _ := rfl
  obtain ⟨plain, hplain, -, -, hmarker, hrun⟩ := flattened_agrees hflat
  refine ⟨_, plain, hflat, hplain, ?_⟩
  have hvalue : build "mixed" [mixedSet] ⟨0, false⟩ = .ok _ := rfl
  obtain rfl := Except.ok.inj (hvalue.symm.trans hplain)
  refine ⟨?_, (hmarker 'A' ?_).1, (hmarker 'A' ?_).2, hrun "Bad" ?_⟩
  · decide +kernel
  · decide +kernel
  · decide +kernel
  · -- only the characters of the text are searched, where an instance could search all there are
    exact @of_decide_eq_true _ (List.decidableBAll _ _) (by decide +kernel)

end Bundle

end Lettering
