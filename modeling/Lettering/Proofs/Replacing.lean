import Mathlib.Data.List.Basic
import Lettering.Regex.Machine
import Lettering.Substitution
import Lettering.Proofs.Filling

/-!
# What a match is replaced by

The template of a substitution is expanded, and then its markers are filled. The second pass sees the
expanded text, so that it cannot tell a marker of the template from one that a group has captured.

* `Regex.text_mem_templateParts`: a character that a template has as text stands in it, so that a
  template without a marker has none among its parts.
* `Substitution.verbatim`: what a match is to be replaced by. Markers of the template become the whole
  match, and what is captured goes in as it is. `Substitution.filledPart` is what a part of a template
  with a marker becomes instead.
* `Substitution.Undisturbed`: the matches for which that makes no difference; `replacement_eq_iff`
  says that they are all.
* `Substitution.apply_verbatim` puts the matches of a text together, and `captured_marker_filled` is a
  text with a match that is disturbed.
-/

namespace Lettering

/-! ## 1. Parts of templates -/

namespace Regex

theorem reference_ne_text (cs : List Char) (c : Char) : TemplatePart.reference cs ≠ .text c := by
  unfold TemplatePart.reference
  split <;> nofun

/-- Behind a dollar sign nothing is read as text but another one, and the rest is read on. -/
theorem readReference_some {cs after : List Char} {part : TemplatePart}
    (h : readReference cs = some (part, after)) :
    (∀ c, part = .text c → c = '$') ∧ after <:+ cs := by
  unfold readReference at h
  split at h
  · cases h
    exact ⟨fun c hc => (TemplatePart.text.inj hc).symm, List.suffix_cons _ _⟩
  · rename_i rest
    split at h
    · rename_i closing _ hrest
      cases h
      refine ⟨fun c hc => absurd hc (reference_ne_text _ c), ?_⟩
      have hclosing : closing :: after <:+ rest := hrest ▸ List.dropWhile_suffix _
      exact (List.suffix_cons _ _).trans (hclosing.trans (List.suffix_cons _ _))
    · cases h
  · split at h
    · cases h
    · cases h
      exact ⟨fun c hc => absurd hc (reference_ne_text _ c), List.dropWhile_suffix _⟩

theorem text_mem_templatePartsFrom {fuel : Nat} {cs : List Char} {c : Char}
    (h : .text c ∈ templatePartsFrom fuel cs) : c ∈ cs := by
  fun_induction templatePartsFrom fuel cs with
  | case1 => cases h
  | case2 => cases h
  | case3 fuel rest part after hpart ih =>
    obtain ⟨htext, hafter⟩ := readReference_some hpart
    rcases List.mem_cons.1 h with hc | h
    · rw [htext c hc.symm]
      exact List.mem_cons_self
    · exact List.mem_cons_of_mem _ (hafter.subset (ih h))
  | case4 fuel rest hnone ih =>
    rcases List.mem_cons.1 h with hc | h
    · cases hc
      exact List.mem_cons_self
    · exact List.mem_cons_of_mem _ (ih h)
  | case5 fuel first rest hdollar ih =>
    rcases List.mem_cons.1 h with hc | h
    · cases hc
      exact List.mem_cons_self
    · exact List.mem_cons_of_mem _ (ih h)

/-- A character that a template has as text stands in it. -/
theorem text_mem_templateParts {template : String} {c : Char}
    (h : .text c ∈ templateParts template) : c ∈ template.toList :=
  text_mem_templatePartsFrom h

/-- Matches that are replaced alike give the same text. -/
theorem replaceAll_congr [Engine] {re : Regex} {text : String} {f g : Array Char → Match → String}
    (h : ∀ m ∈ Engine.matchesIn re text.toList.toArray,
      f text.toList.toArray m = g text.toList.toArray m) :
    re.replaceAll text f = re.replaceAll text g := by
  have hmatches (pos : Nat) {ms : List Match}
      (hms : ∀ m ∈ ms, f text.toList.toArray m = g text.toList.toArray m) :
      replaceMatches text.toList.toArray (f text.toList.toArray) pos ms =
        replaceMatches text.toList.toArray (g text.toList.toArray) pos ms := by
    induction ms generalizing pos with
    | nil => rfl
    | cons m ms ih =>
      rw [replaceMatches, replaceMatches, hms m List.mem_cons_self,
        ih m.finish fun m' hm' => hms m' (List.mem_cons_of_mem _ hm')]
  unfold replaceAll
  dsimp only
  split
  · rfl
  · exact hmatches 0 h

end Regex

/-! ## 2. One match -/

namespace Substitution

open Regex Marker

section AnyEngine

variable [Engine] (s : Substitution) (text : Array Char) (m : Match)

/-- The characters of the whole match. -/
def whole : List Char := slice text (m.start, m.finish)

/-- What a part of the template has captured; text has captured nothing. -/
def capturedPart : TemplatePart → List Char
  | .text _ => []
  | part => s.regex.expandPart text m part

/-- What a part of the template is to become: a marker the whole match, another character itself, and
a reference what it has captured. -/
def verbatimPart : TemplatePart → List Char
  | .text c => if c = char then whole text m else [c]
  | part => s.regex.expandPart text m part

/-- What a part becomes when it is filled after it was expanded. -/
def filledPart (part : TemplatePart) : List Char :=
  fillChars (whole text m) (s.regex.expandPart text m part)

/-- What the template has captured. -/
def captured : List Char := (templateParts s.template).flatMap (s.capturedPart text m)

/-- What a match is to be replaced by. -/
def verbatim : String :=
  String.ofList ((templateParts s.template).flatMap (s.verbatimPart text m))

/-- Filling makes no difference to what the template has captured: it does not take place, or there is
no marker in what was captured, or each is filled with itself. -/
def Undisturbed : Prop :=
  char ∉ s.template.toList ∨ char ∉ s.captured text m ∨ whole text m = [char]

instance : Decidable (s.Undisturbed text m) := by unfold Undisturbed; infer_instance

theorem filledPart_text (c : Char) :
    s.filledPart text m (.text c) = s.verbatimPart text m (.text c) := by
  rw [filledPart, expandPart, fillChars, List.flatMap_singleton, verbatimPart]

/-- A marker that is filled in what was captured is the length of the whole match there. -/
theorem length_filledParts (parts : List TemplatePart) :
    (parts.flatMap (s.filledPart text m)).length +
        (parts.flatMap (s.capturedPart text m)).count char =
      (parts.flatMap (s.verbatimPart text m)).length +
        (parts.flatMap (s.capturedPart text m)).count char * (whole text m).length := by
  induction parts with
  | nil => simp
  | cons part parts ih =>
    have hpart : (s.filledPart text m part).length + (s.capturedPart text m part).count char =
        (s.verbatimPart text m part).length +
          (s.capturedPart text m part).count char * (whole text m).length := by
      cases part with
      | text c => simp [filledPart_text, capturedPart]
      | number | name => exact length_fillChars _ _
    simp only [List.flatMap_cons, List.length_append, List.count_append, Nat.add_mul]
    omega

variable {s text m}

/-- A template without a marker has no text to fill, and gives what it is to give. -/
theorem replacement_of_not_mem (h : char ∉ s.template.toList) :
    s.replacement text m = s.verbatim text m := by
  have hocc : ¬ occursIn s.template = true := fun hocc => h (occursIn_iff.1 hocc)
  have hpart : ∀ part ∈ templateParts s.template,
      s.regex.expandPart text m part = s.verbatimPart text m part := by
    intro part hmem
    cases part with
    | text c =>
      have hc : c ≠ char := by
        rintro rfl
        exact h (text_mem_templateParts hmem)
      exact (if_neg hc).symm
    | number | name => rfl
  simp only [replacement, if_neg hocc, expand, verbatim, List.flatMap_congr hpart]

/-- A template with a marker is filled part by part, text and what is captured alike. -/
theorem toList_replacement_of_mem (h : char ∈ s.template.toList) :
    (s.replacement text m).toList = (templateParts s.template).flatMap (s.filledPart text m) := by
  simp only [replacement, occursIn_iff.2 h, if_true, toList_fill, expand, String.toList_ofList]
  exact List.flatMap_assoc

/-- A part that has captured no marker is what it is to be. -/
theorem filledPart_eq {part : TemplatePart}
    (h : char ∉ s.capturedPart text m part ∨ whole text m = [char]) :
    s.filledPart text m part = s.verbatimPart text m part := by
  cases part with
  | text c => exact filledPart_text s text m c
  | number | name =>
    rcases h with hfree | hself
    · exact fillChars_of_not_mem _ hfree
    · rw [filledPart, hself, fillChars_char]
      rfl

/-- What a part has captured is what it is to become. -/
theorem capturedPart_subset (part : TemplatePart) :
    s.capturedPart text m part ⊆ s.verbatimPart text m part := by
  cases part with
  | text c => exact List.nil_subset _
  | number | name => exact List.Subset.refl _

/-- Markers that were captured are left alone only by a match that is the marker. -/
theorem whole_eq_of_filled {parts : List TemplatePart}
    (h : parts.flatMap (s.filledPart text m) = parts.flatMap (s.verbatimPart text m))
    (hcaptured : char ∈ parts.flatMap (s.capturedPart text m)) : whole text m = [char] := by
  have hlength := length_filledParts s text m parts
  have hcount : 0 < (parts.flatMap (s.capturedPart text m)).count char :=
    List.count_pos_iff.2 hcaptured
  rw [h, Nat.add_left_cancel_iff] at hlength
  obtain ⟨w, hw⟩ : ∃ w, whole text m = [w] :=
    List.length_eq_one_iff.1 (Nat.eq_of_mul_eq_mul_left hcount (by omega))
  by_cases hmarker : w = char
  · rw [hw, hmarker]
  · -- the match has no marker, so that nothing that is filled with it has one
    obtain ⟨part, hpart, hmem⟩ := List.mem_flatMap.1 hcaptured
    have hverbatim : char ∈ parts.flatMap (s.verbatimPart text m) :=
      List.mem_flatMap.2 ⟨part, hpart, capturedPart_subset part hmem⟩
    rw [← h] at hverbatim
    obtain ⟨other, -, hother⟩ := List.mem_flatMap.1 hverbatim
    have hfree : char ∉ whole text m := by
      rw [hw, List.mem_singleton]
      exact Ne.symm hmarker
    exact absurd hother (not_mem_fillChars hfree _)

/-- **A match is replaced by what it is to be replaced by exactly if filling makes no difference to
what the template has captured.** -/
theorem replacement_eq_iff :
    s.replacement text m = s.verbatim text m ↔ s.Undisturbed text m := by
  by_cases htemplate : char ∈ s.template.toList
  · rw [← String.toList_inj, toList_replacement_of_mem htemplate, verbatim, String.toList_ofList]
    constructor
    · intro h
      by_cases hcaptured : char ∈ s.captured text m
      · exact .inr (.inr (whole_eq_of_filled h hcaptured))
      · exact .inr (.inl hcaptured)
    · intro h
      refine List.flatMap_congr fun part hpart => filledPart_eq ?_
      rcases h with habsent | hfree | hself
      · exact absurd htemplate habsent
      · exact .inl fun hmem => hfree (List.mem_flatMap.2 ⟨part, hpart, hmem⟩)
      · exact .inr hself
  · exact iff_of_true (replacement_of_not_mem htemplate) (.inl htemplate)

/-! ## 3. Whole texts -/

/-- Only characters of the text are captured. -/
theorem mem_of_captured {c : Char} (h : c ∈ s.captured text m) : c ∈ text := by
  have hends (ends : Option (Nat × Nat)) (hc : c ∈ (ends.map (slice text)).getD []) : c ∈ text := by
    cases ends with
    | none => cases hc
    | some ends =>
      obtain ⟨k, -, rfl⟩ := Array.mem_extract_iff_getElem.1 (Array.mem_toList_iff.1 hc)
      exact Array.getElem_mem _
  obtain ⟨part, -, hpart⟩ := List.mem_flatMap.1 h
  cases part with
  | text _ => cases hpart
  | number | name => exact hends _ hpart

/-- **A substitution replaces each match by its template, in which every marker stands for the whole
match and every reference for what it has captured.** This holds of a match exactly if filling makes
no difference to what was captured there; of a text, if it holds of its matches; and so of every text
if the template has no marker, and of every text without a marker. -/
theorem apply_verbatim (s : Substitution) (text : String) :
    (∀ m, s.replacement text.toList.toArray m = s.verbatim text.toList.toArray m ↔
      s.Undisturbed text.toList.toArray m) ∧
    ((∀ m ∈ Engine.matchesIn s.regex text.toList.toArray, s.Undisturbed text.toList.toArray m) →
      s.apply text = s.regex.replaceAll text s.verbatim) ∧
    (char ∉ s.template.toList ∨ char ∉ text.toList →
      s.apply text = s.regex.replaceAll text s.verbatim) := by
  have happly (h : ∀ m ∈ Engine.matchesIn s.regex text.toList.toArray,
      s.Undisturbed text.toList.toArray m) : s.apply text = s.regex.replaceAll text s.verbatim :=
    replaceAll_congr fun m hm => replacement_eq_iff.2 (h m hm)
  refine ⟨fun m => replacement_eq_iff, happly, fun h => happly fun m _ => ?_⟩
  rcases h with htemplate | htext
  · exact .inl htemplate
  · exact .inr (.inl fun hmem => htext (List.mem_toArray.1 (mem_of_captured hmem)))

end AnyEngine

/-- A substitution whose template has a group and a marker. -/
def echo : Substitution := (make? "(.)b" "$1\uFFFC").get (by decide +kernel)

/-- A marker beside the matches is left alone, and one in the template stands for the match. -/
theorem apply_verbatim_echo :
    echo.apply "\uFFFCab cb" = "\uFFFCaab ccb" ∧ echo.apply "ab cb" = "aab ccb" := by
  obtain ⟨-, hmatches, -⟩ := apply_verbatim echo "\uFFFCab cb"
  obtain ⟨-, -, hfree⟩ := apply_verbatim echo "ab cb"
  refine ⟨?_, ?_⟩
  · rw [hmatches (by decide +kernel)]
    decide +kernel
  · rw [hfree (.inr (by decide +kernel))]
    decide +kernel

/-- A marker that a group has captured is filled like one of the template. -/
theorem captured_marker_filled : echo.apply "\uFFFCb" = "\uFFFCb\uFFFCb" ∧
    echo.regex.replaceAll "\uFFFCb" echo.verbatim = "\uFFFC\uFFFCb" := by
  refine ⟨?_, ?_⟩
  · decide +kernel
  · decide +kernel

end Substitution

end Lettering
