/-!
# Splitting texts

A text split at the first or at the last occurrence of a separator. The separator itself belongs
to neither part.
-/

namespace Lettering.Text

/-- The parts before and after the first separator. -/
def splitFirst (sep : Char) : List Char → Option (List Char × List Char)
  | [] => none
  | c :: rest =>
    if c = sep then some ([], rest)
    else (splitFirst sep rest).map fun parts => (c :: parts.1, parts.2)

/-- The parts before and after the last separator. -/
def splitLast (sep : Char) : List Char → Option (List Char × List Char)
  | [] => none
  | c :: rest =>
    match splitLast sep rest with
    | some parts => some (c :: parts.1, parts.2)
    | none => if c = sep then some ([], rest) else none

/-- Putting the parts together around the separator gives the text back. -/
theorem eq_of_splitFirst {sep : Char} {cs before after : List Char}
    (h : splitFirst sep cs = some (before, after)) : cs = before ++ sep :: after := by
  induction cs generalizing before with
  | nil => simp [splitFirst] at h
  | cons c rest ih =>
    unfold splitFirst at h
    split at h
    · rename_i hc
      simp only [Option.some.injEq, Prod.mk.injEq] at h
      obtain ⟨rfl, rfl⟩ := h
      simp [hc]
    · obtain ⟨⟨b, a⟩, hp, he⟩ := Option.map_eq_some_iff.1 h
      simp only [Prod.mk.injEq] at he
      obtain ⟨rfl, rfl⟩ := he
      simp [ih hp]

/-- The part before the first separator does not hold it. -/
theorem not_mem_of_splitFirst {sep : Char} {cs before after : List Char}
    (h : splitFirst sep cs = some (before, after)) : sep ∉ before := by
  induction cs generalizing before with
  | nil => simp [splitFirst] at h
  | cons c rest ih =>
    unfold splitFirst at h
    split at h
    · simp only [Option.some.injEq, Prod.mk.injEq] at h
      obtain ⟨rfl, rfl⟩ := h
      simp
    · rename_i hc
      obtain ⟨⟨b, a⟩, hp, he⟩ := Option.map_eq_some_iff.1 h
      simp only [Prod.mk.injEq] at he
      obtain ⟨rfl, rfl⟩ := he
      simp only [List.mem_cons, not_or]
      exact ⟨fun e => hc e.symm, ih hp⟩

/-- A text that holds the separator is split. -/
theorem exists_splitFirst {sep : Char} {cs : List Char} (h : sep ∈ cs) :
    ∃ before after, splitFirst sep cs = some (before, after) := by
  induction cs with
  | nil => cases h
  | cons c rest ih =>
    unfold splitFirst
    split
    · exact ⟨[], rest, rfl⟩
    · rename_i hc
      obtain ⟨before, after, hr⟩ := ih ((List.mem_cons.1 h).resolve_left fun e => hc e.symm)
      exact ⟨c :: before, after, by rw [hr]; rfl⟩

theorem splitFirst_eq_none_iff {sep : Char} {cs : List Char} :
    splitFirst sep cs = none ↔ sep ∉ cs := by
  constructor
  · intro h hm
    obtain ⟨before, after, hsplit⟩ := exists_splitFirst hm
    rw [h] at hsplit
    cases hsplit
  · intro h
    cases hsplit : splitFirst sep cs with
    | none => rfl
    | some parts =>
      refine absurd ?_ h
      rw [eq_of_splitFirst hsplit]
      exact List.mem_append_right _ List.mem_cons_self

theorem splitFirst_append {sep : Char} {before : List Char} (h : sep ∉ before)
    (after : List Char) : splitFirst sep (before ++ sep :: after) = some (before, after) := by
  induction before with
  | nil => exact if_pos rfl
  | cons c rest ih =>
    rw [List.mem_cons, not_or] at h
    rw [List.cons_append, splitFirst, if_neg (Ne.symm h.1), ih h.2, Option.map_some]

/-- A text is split at the separator before which there is no other. -/
theorem splitFirst_eq_some_iff {sep : Char} {cs before after : List Char} :
    splitFirst sep cs = some (before, after) ↔ cs = before ++ sep :: after ∧ sep ∉ before := by
  constructor
  · exact fun h => ⟨eq_of_splitFirst h, not_mem_of_splitFirst h⟩
  · rintro ⟨rfl, h⟩
    exact splitFirst_append h after

/-! ## The last separator -/

theorem splitLast_eq_none_iff {sep : Char} {cs : List Char} :
    splitLast sep cs = none ↔ sep ∉ cs := by
  induction cs with
  | nil => simp [splitLast]
  | cons c rest ih =>
    unfold splitLast
    split
    · rename_i hparts
      simp only [List.mem_cons, not_or, reduceCtorEq, false_iff]
      intro hm
      rw [ih.2 hm.2] at hparts
      cases hparts
    · rename_i hrest
      have hsep := ih.1 hrest
      by_cases hc : c = sep
      · simp [hc]
      · simp [hc, hsep, Ne.symm hc]

theorem splitLast_append {sep : Char} (before : List Char) {after : List Char} (h : sep ∉ after) :
    splitLast sep (before ++ sep :: after) = some (before, after) := by
  induction before with
  | nil =>
    rw [List.nil_append, splitLast, splitLast_eq_none_iff.2 h]
    exact if_pos rfl
  | cons c rest ih =>
    rw [List.cons_append, splitLast, ih]

/-- A text is split at the separator behind which there is no other. -/
theorem splitLast_eq_some_iff {sep : Char} {cs before after : List Char} :
    splitLast sep cs = some (before, after) ↔ cs = before ++ sep :: after ∧ sep ∉ after := by
  constructor
  · intro h
    induction cs generalizing before with
    | nil => cases h
    | cons c rest ih =>
      unfold splitLast at h
      split at h
      · rename_i hparts
        cases h
        obtain ⟨hrest, hsep⟩ := ih hparts
        exact ⟨congrArg (c :: ·) hrest, hsep⟩
      · rename_i hrest
        split at h
        · rename_i hc
          cases h
          rw [hc]
          exact ⟨rfl, splitLast_eq_none_iff.1 hrest⟩
        · cases h
  · rintro ⟨rfl, h⟩
    exact splitLast_append before h

end Lettering.Text
