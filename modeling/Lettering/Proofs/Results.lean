/-!
# Results taken apart

A run of steps succeeds only if each of its steps does. Here a success is taken apart into those of
the steps, and `foldlM_collects` is the induction that goes with it: what every step adds to a list,
a run adds member by member. A list fails at its first member that does (`mapM_eq_error_iff`); where
each step of a run is taken unless something is wrong with its member (`checked`), the run is
stopped by the first such member and by nothing else (`foldlM_checked`).
-/

namespace Lettering

variable {ε α β γ : Type}

/-! ## 1. One step after another -/

/-- Where two steps succeed, the first one does and the second one does on its result. -/
theorem exists_of_bind_ok {x : Except ε α} {f : α → Except ε β} {y : β}
    (h : x >>= f = .ok y) : ∃ a, x = .ok a ∧ f a = .ok y := by
  cases x with
  | error e => cases h
  | ok a => exact ⟨a, rfl, h⟩

/-- What does not fail succeeds. -/
theorem exists_ok_iff {x : Except ε α} : (∃ a, x = .ok a) ↔ ∀ e, x ≠ .error e := by
  cases x with
  | ok a => exact iff_of_true ⟨a, rfl⟩ nofun
  | error e => exact iff_of_false nofun fun h => h e rfl

/-! ## 2. Runs with a state -/

/-- **A run collects what its steps collect.** -/
theorem foldlM_collects {f : β → α → Except ε β} {P : List γ → β → Prop} (g : α → List γ)
    (hstep : ∀ {done a x b}, P done a → f a x = .ok b → P (done ++ g x) b) {xs : List α}
    {done : List γ} {a b : β} (ha : P done a) (h : xs.foldlM f a = .ok b) :
    P (done ++ xs.flatMap g) b := by
  induction xs generalizing done a with
  | nil =>
    cases h
    rwa [List.flatMap_nil, List.append_nil]
  | cons x xs ih =>
    rw [List.foldlM_cons] at h
    obtain ⟨a', hx, hxs⟩ := exists_of_bind_ok h
    have hnext := ih (hstep ha hx) hxs
    rwa [List.append_assoc, ← List.flatMap_cons] at hnext

/-- So does a run whose steps cannot fail. -/
theorem foldl_collects {f : β → α → β} {P : List γ → β → Prop} (g : α → List γ)
    (hstep : ∀ {done b} x, P done b → P (done ++ g x) (f b x)) {done : List γ} {b : β}
    (hb : P done b) (xs : List α) : P (done ++ xs.flatMap g) (xs.foldl f b) := by
  induction xs generalizing done b with
  | nil => rwa [List.flatMap_nil, List.append_nil]
  | cons x xs ih =>
    have hnext := ih (hstep x hb)
    rwa [List.append_assoc, ← List.flatMap_cons] at hnext

/-! ## 3. Lists of results -/

/-- Each result of a list that succeeds is the result of a member. -/
theorem exists_of_mapM_ok {f : α → Except ε β} {xs : List α} {ys : List β}
    (h : xs.mapM f = .ok ys) {y : β} (hy : y ∈ ys) : ∃ x ∈ xs, f x = .ok y := by
  induction xs generalizing ys with
  | nil =>
    cases h
    cases hy
  | cons x xs ih =>
    rw [List.mapM_cons] at h
    obtain ⟨first, hx, h⟩ := exists_of_bind_ok h
    obtain ⟨rest, hxs, h⟩ := exists_of_bind_ok h
    cases h
    rcases List.mem_cons.1 hy with rfl | hy
    · exact ⟨x, List.mem_cons_self, hx⟩
    · obtain ⟨x', hm, hx'⟩ := ih hxs hy
      exact ⟨x', List.mem_cons_of_mem _ hm, hx'⟩

/-- A list whose members all succeed succeeds. -/
theorem exists_mapM_ok {f : α → Except ε β} {xs : List α} (h : ∀ x ∈ xs, ∃ y, f x = .ok y) :
    ∃ ys, xs.mapM f = .ok ys := by
  induction xs with
  | nil => exact ⟨[], rfl⟩
  | cons x xs ih =>
    obtain ⟨y, hy⟩ := h x List.mem_cons_self
    obtain ⟨ys, hys⟩ := ih fun x' hx' => h x' (List.mem_cons_of_mem _ hx')
    refine ⟨y :: ys, ?_⟩
    rw [List.mapM_cons, hy, hys]
    rfl

/-- **A list fails at its first member that fails.** -/
theorem mapM_eq_error_iff {f : α → Except ε β} {xs : List α} {e : ε} :
    xs.mapM f = .error e ↔ ∃ before x behind, xs = before ++ x :: behind ∧
      (∀ y ∈ before, ∃ z, f y = .ok z) ∧ f x = .error e := by
  constructor
  · intro h
    induction xs with
    | nil => cases h
    | cons x xs ih =>
      rw [List.mapM_cons] at h
      cases hx : f x with
      | error e' =>
        rw [hx] at h
        cases h
        exact ⟨[], x, xs, rfl, fun _ hy => absurd hy List.not_mem_nil, hx⟩
      | ok z =>
        cases hxs : xs.mapM f with
        | ok zs =>
          rw [hx, hxs] at h
          cases h
        | error e' =>
          rw [hx, hxs] at h
          cases h
          obtain ⟨before, y, behind, rfl, hbefore, hy⟩ := ih hxs
          exact ⟨x :: before, y, behind, rfl,
            List.forall_mem_cons.2 ⟨⟨z, hx⟩, hbefore⟩, hy⟩
  · rintro ⟨before, x, behind, rfl, hbefore, hx⟩
    obtain ⟨zs, hzs⟩ := exists_mapM_ok hbefore
    rw [List.mapM_append, hzs, List.mapM_cons, hx]
    rfl

/-! ## 4. Checked steps -/

/-- The result of a step that is taken unless something is wrong. -/
def checked (fault : Option ε) (next : β) : Except ε β :=
  match fault with
  | some e => .error e
  | none => .ok next

theorem checked_eq_ok_iff {fault : Option ε} {next b : β} :
    checked fault next = .ok b ↔ fault = none ∧ next = b := by
  cases fault with
  | none => simp [checked]
  | some e => simp [checked]

/-- Nothing is wrong with what succeeds, if a fault is what it fails with. -/
theorem eq_none_iff_exists_ok {x : Except ε α} {fault : Option ε}
    (h : ∀ {e}, x = .error e ↔ fault = some e) : fault = none ↔ ∃ a, x = .ok a := by
  rw [exists_ok_iff, Option.eq_none_iff_forall_ne_some]
  exact forall_congr' fun e => not_congr h.symm

/-- **A run of checked steps stops at the first member with a fault**, and else takes them all. -/
theorem foldlM_checked {f : β → α → Except ε β} {fault : α → Option ε} {next : β → α → β}
    (hf : ∀ b x, f b x = checked (fault x) (next b x)) (xs : List α) (b : β) :
    xs.foldlM f b = checked (xs.findSome? fault) (xs.foldl next b) := by
  induction xs generalizing b with
  | nil => rfl
  | cons x xs ih =>
    rw [List.foldlM_cons, hf, List.findSome?_cons]
    cases fault x with
    | none => exact ih (next b x)
    | some e => rfl

theorem findSome?_flatMap {γ : Type} (f : β → Option γ) (g : α → List β) (xs : List α) :
    (xs.flatMap g).findSome? f = xs.findSome? fun x => (g x).findSome? f := by
  induction xs with
  | nil => rfl
  | cons x xs ih =>
    rw [List.flatMap_cons, List.findSome?_append, List.findSome?_cons, ih]
    cases (g x).findSome? f <;> rfl

end Lettering
