import Lettering.Proofs.Visiting

/-!
# Every include is honoured or reported

A visit keeps the first entry that names a set and leaves out all others. This file accounts for
each entry of each include list.

* `Visit.Warned`: a warning speaks of sets that were met and of an include that is listed.
* `Visit.Counted`: of the entries that name a set, one is the meeting of the set and the others are
  warnings or still to be looked at.
* `Visit.Ordered`: an entry that was looked at is a warning, or its set was met behind the set that
  lists it and behind whatever that set lists before it.
* Each step of a visit keeps all three, and `RuleStore.includes_reported` reads them off a
  resolution: the order of the layers goes against the order of includes only with a warning.
-/

namespace Lettering

/-! ## 1. Order in a list -/

/-- One name stands before another one. -/
def Precedes (names : List String) (first later : String) : Prop := [first, later].Sublist names

namespace Precedes

variable {names : List String} {first later : String}

theorem mem_left (h : Precedes names first later) : first ∈ names :=
  h.subset List.mem_cons_self

theorem mem_right (h : Precedes names first later) : later ∈ names :=
  h.subset (List.mem_cons_of_mem _ List.mem_cons_self)

theorem cons_of_mem (first : String) (h : later ∈ names) :
    Precedes (first :: names) first later :=
  (List.singleton_sublist.2 h).cons_cons first

/-- Where nothing is repeated, only one of two names stands before the other one. -/
theorem not_swap (hdistinct : names.Nodup) (h : Precedes names first later) :
    ¬ Precedes names later first := by
  intro hswap
  induction names with
  | nil => exact absurd h.mem_left List.not_mem_nil
  | cons name names ih =>
    obtain ⟨hname, hrest⟩ := List.nodup_cons.1 hdistinct
    cases h with
    | cons _ h =>
      cases hswap with
      | cons _ hswap => exact ih hrest h hswap
      | cons_cons _ _ => exact hname (Precedes.mem_right h)
    | cons_cons _ h =>
      cases hswap with
      | cons _ hswap => exact hname (Precedes.mem_right hswap)
      | cons_cons _ _ => exact hname (List.singleton_sublist.1 h)

/-- What stands before a name is in the part in front of one of its places. -/
theorem exists_split (h : Precedes names first later) :
    ∃ before after, names = before ++ later :: after ∧ first ∈ before := by
  induction names with
  | nil => exact absurd h.mem_left List.not_mem_nil
  | cons name names ih =>
    cases h with
    | cons _ h =>
      obtain ⟨before, after, rfl, hfirst⟩ := ih h
      exact ⟨name :: before, after, rfl, List.mem_cons_of_mem _ hfirst⟩
    | cons_cons _ h =>
      obtain ⟨before, after, rfl⟩ := List.append_of_mem (List.singleton_sublist.1 h)
      exact ⟨first :: before, after, rfl, List.mem_cons_self⟩

end Precedes

/-! ## 2. Entries and warnings counted -/

/-- How often the sets of other names list a name. -/
def listedElsewhere (name : String) (layers : List RuleSet) : Nat :=
  ((layers.filter fun set => set.name != name).flatMap (·.includes)).count name

/-- How often an include of a name was left out because its set was met before. -/
def loopsTo (name : String) (warnings : List RuleWarning) : Nat :=
  warnings.countP fun
    | .includeLoop _ target => target = name
    | _ => false

theorem listedElsewhere_cons (name : String) (set : RuleSet) (layers : List RuleSet) :
    listedElsewhere name (set :: layers) =
      (if set.name = name then 0 else set.includes.count name) + listedElsewhere name layers := by
  by_cases h : set.name = name <;> simp [listedElsewhere, h]

theorem loopsTo_again (name : String) (warnings : List RuleWarning) (owner target : String) :
    loopsTo name (warnings ++ [.includeLoop owner target]) =
      loopsTo name warnings + if target = name then 1 else 0 := by
  by_cases h : target = name <;> simp [loopsTo, List.countP_append, h]

theorem loopsTo_self (name : String) (warnings : List RuleWarning) (owner : String) :
    loopsTo name (warnings ++ [.selfInclude owner]) = loopsTo name warnings := by
  simp [loopsTo, List.countP_append]

namespace Visit

/-- How often other sets still wait to include a name. -/
def waitingElsewhere (name : String) (pending : List (String × String)) : Nat :=
  pending.countP fun entry => entry.1 ≠ name ∧ entry.2 = name

theorem waitingElsewhere_cons (name : String) (entry : String × String)
    (pending : List (String × String)) :
    waitingElsewhere name (entry :: pending) =
      waitingElsewhere name pending + if entry.1 ≠ name ∧ entry.2 = name then 1 else 0 := by
  simp [waitingElsewhere, List.countP_cons]

theorem waitingElsewhere_map (name owner : String) (includes : List String) :
    waitingElsewhere name (includes.map (owner, ·)) =
      if owner = name then 0 else includes.count name := by
  rw [waitingElsewhere, List.countP_map]
  by_cases h : owner = name
  · simp [h, Function.comp_def]
  · rw [if_neg h, List.count]
    refine List.countP_congr fun listed _ => ?_
    simp [h]

theorem waitingElsewhere_append (name : String) (front pending : List (String × String)) :
    waitingElsewhere name (front ++ pending) =
      waitingElsewhere name front + waitingElsewhere name pending :=
  List.countP_append

/-! ## 3. Warnings mean what they say -/

variable {r : RuleStore} {start : String} {v v' : Visit}

/-- Warnings speak of sets that were met and of what they list. -/
structure Warned (r : RuleStore) (v : Visit) : Prop where
  self : ∀ {owner}, .selfInclude owner ∈ v.warnings → owner ∈ v.seen
  loop : ∀ {owner name}, .includeLoop owner name ∈ v.warnings →
    owner ∈ v.seen ∧ name ∈ v.seen ∧ owner ≠ name ∧ r.Lists owner name

theorem Warned.step (hclosing : Closing r start v) (h : Warned r v) (hstep : Step r v v') :
    Warned r v' := by
  cases hstep with
  | self =>
    refine ⟨fun hw => ?_, fun hw => ?_⟩
    · rcases List.mem_append.1 hw with hw | hw
      · exact h.self hw
      · cases List.mem_singleton.1 hw
        exact hclosing.owners _ List.mem_cons_self
    · rcases List.mem_append.1 hw with hw | hw
      · exact h.loop hw
      · cases List.mem_singleton.1 hw
  | again hother hseen =>
    refine ⟨fun hw => ?_, fun hw => ?_⟩
    · rcases List.mem_append.1 hw with hw | hw
      · exact h.self hw
      · cases List.mem_singleton.1 hw
    · rcases List.mem_append.1 hw with hw | hw
      · exact h.loop hw
      · cases List.mem_singleton.1 hw
        exact ⟨hclosing.owners _ List.mem_cons_self, hseen, hother.symm,
          hclosing.lists List.mem_cons_self⟩
  | first hother hnew hstored =>
    refine ⟨fun hw => List.mem_cons_of_mem _ (h.self hw), fun hw => ?_⟩
    obtain ⟨howner, hname, hrest⟩ := h.loop hw
    exact ⟨List.mem_cons_of_mem _ howner, List.mem_cons_of_mem _ hname, hrest⟩

/-! ## 4. Every entry is counted -/

/-- The entries of the include lists against what was made of them. -/
structure Counted (start : String) (v : Visit) : Prop where
  selves : ∀ set ∈ v.layers, v.warnings.count (.selfInclude set.name) +
    (waiting set.name v.pending).count set.name = set.includes.count set.name
  others : ∀ name, listedElsewhere name v.layers =
    (if name ∈ v.seen ∧ name ≠ start then 1 else 0) + loopsTo name v.warnings +
      waitingElsewhere name v.pending

namespace Counted

theorem of_start {set : RuleSet} (hstored : r.get? start = some set) :
    Counted start (Visit.start start set) where
  selves found hfound := by
    obtain rfl := List.mem_singleton.1 hfound
    have hwaiting : waiting found.name (Visit.start start found).pending = found.includes := by
      rw [r.selfNamed hstored]
      exact waiting_map_own start found.includes
    rw [hwaiting]
    exact Nat.zero_add _
  others name := by
    have hname : set.name = start := r.selfNamed hstored
    have hnone : ¬ (name ∈ (Visit.start start set).seen ∧ name ≠ start) := fun ⟨hmem, hne⟩ =>
      hne (List.mem_singleton.1 hmem)
    have hlayers : listedElsewhere name (Visit.start start set).layers =
        if start = name then 0 else set.includes.count name := by
      rw [← hname]
      exact listedElsewhere_cons name set []
    have hpending : waitingElsewhere name (Visit.start start set).pending =
        if start = name then 0 else set.includes.count name :=
      waitingElsewhere_map name start set.includes
    have hwarnings : loopsTo name (Visit.start start set).warnings = 0 := rfl
    rw [if_neg hnone, hlayers, hpending, hwarnings]
    omega

/-- An entry of one set does not count as an include of itself by another one. -/
theorem count_waiting_cons {owner name : String} (h : name ≠ owner) (other : String)
    (pending : List (String × String)) :
    (waiting other ((owner, name) :: pending)).count other = (waiting other pending).count other := by
  by_cases hown : owner = other
  · subst hown
    rw [waiting_cons_self, List.count_cons_of_ne h]
  · rw [waiting_cons_of_ne hown]

/-- An include of the set itself becomes a warning about it. -/
theorem self {seen : List String} {layers : List RuleSet} {warnings : List RuleWarning}
    {owner : String} {pending : List (String × String)}
    (h : Counted start ⟨seen, layers, warnings, (owner, owner) :: pending⟩) :
    Counted start ⟨seen, layers, warnings ++ [.selfInclude owner], pending⟩ where
  selves set hset := by
    have hcount := h.selves set hset
    dsimp only at hcount ⊢
    by_cases hown : owner = set.name
    · subst hown
      rw [waiting_cons_self, List.count_cons_self] at hcount
      rw [List.count_append, List.count_singleton_self]
      omega
    · have hother : (RuleWarning.selfInclude owner) ≠ .selfInclude set.name := fun he =>
        hown (RuleWarning.selfInclude.inj he)
      rw [waiting_cons_of_ne hown] at hcount
      rw [List.count_append, List.count_singleton, if_neg (by simpa using hother)]
      exact hcount
  others name := by
    have hcount := h.others name
    dsimp only at hcount ⊢
    have hnone : ¬ (owner ≠ name ∧ owner = name) := fun he => he.1 he.2
    rw [waitingElsewhere_cons, if_neg hnone] at hcount
    rw [loopsTo_self]
    exact hcount

/-- An include of a set met before becomes a warning about the two. -/
theorem again {seen : List String} {layers : List RuleSet} {warnings : List RuleWarning}
    {owner name : String} {pending : List (String × String)} (hother : name ≠ owner)
    (h : Counted start ⟨seen, layers, warnings, (owner, name) :: pending⟩) :
    Counted start ⟨seen, layers, warnings ++ [.includeLoop owner name], pending⟩ where
  selves set hset := by
    have hcount := h.selves set hset
    dsimp only at hcount ⊢
    have hnone : List.count (RuleWarning.selfInclude set.name) [.includeLoop owner name] = 0 :=
      List.count_eq_zero.2 (by simp)
    rw [count_waiting_cons hother] at hcount
    rw [List.count_append, hnone]
    exact hcount
  others target := by
    have hcount := h.others target
    dsimp only at hcount ⊢
    rw [waitingElsewhere_cons] at hcount
    rw [loopsTo_again]
    dsimp only at hcount
    by_cases htarget : name = target
    · have hpending : owner ≠ target ∧ name = target := ⟨htarget ▸ hother.symm, htarget⟩
      rw [if_pos hpending] at hcount
      rw [if_pos htarget]
      omega
    · have hpending : ¬ (owner ≠ target ∧ name = target) := fun he => htarget he.2
      rw [if_neg hpending] at hcount
      rw [if_neg htarget]
      omega

/-- An include of a set met for the first time is its meeting, and the includes of that set are
waiting from then on. -/
theorem first {seen : List String} {layers : List RuleSet} {warnings : List RuleWarning}
    {owner name : String} {pending : List (String × String)} {set : RuleSet}
    (hclosing : Closing r start ⟨seen, layers, warnings, (owner, name) :: pending⟩)
    (hwarned : Warned r ⟨seen, layers, warnings, (owner, name) :: pending⟩)
    (hother : name ≠ owner) (hnew : name ∉ seen) (hown : set.name = name)
    (h : Counted start ⟨seen, layers, warnings, (owner, name) :: pending⟩) :
    Counted start
      ⟨name :: seen, set :: layers, warnings, set.includes.map (name, ·) ++ pending⟩ where
  selves found hfound := by
    dsimp only
    rcases List.mem_cons.1 hfound with rfl | hold
    · -- the set met now: nothing was said about it, and all its includes are waiting
      have hsilent : warnings.count (.selfInclude name) = 0 :=
        List.count_eq_zero.2 fun hw => hnew (hwarned.self hw)
      have hfresh : ∀ entry ∈ pending, entry.1 ≠ name := by
        rintro entry hentry rfl
        exact hnew (hclosing.owners entry (List.mem_cons_of_mem _ hentry))
      rw [hown, hsilent, waiting_own _ hfresh, Nat.zero_add]
    · have hcount := h.selves found hold
      have hne : name ≠ found.name := by
        rintro rfl
        exact hnew (hclosing.seen_of_layer hold)
      dsimp only at hcount
      rw [count_waiting_cons hother] at hcount
      rw [waiting_other _ hne]
      exact hcount
  others target := by
    have hcount := h.others target
    have hroot : start ∈ seen := List.mem_of_getLast? hclosing.root
    dsimp only at hcount ⊢
    rw [waitingElsewhere_cons] at hcount
    rw [listedElsewhere_cons, waitingElsewhere_append, waitingElsewhere_map, hown]
    dsimp only at hcount
    by_cases htarget : name = target
    · subst htarget
      have hstart : name ≠ start := fun he => hnew (he ▸ hroot)
      rw [if_neg fun he => hnew he.1, if_pos ⟨hother.symm, rfl⟩] at hcount
      rw [if_pos rfl, if_pos ⟨List.mem_cons_self, hstart⟩]
      omega
    · have hseen : (target ∈ name :: seen ∧ target ≠ start) ↔ (target ∈ seen ∧ target ≠ start) := by
        simp [List.mem_cons, Ne.symm htarget]
      have hpending : ¬ (owner ≠ target ∧ name = target) := fun he => htarget he.2
      rw [if_neg hpending] at hcount
      rw [if_neg htarget]
      simp only [hseen]
      omega

/-- **Every step keeps the account.** -/
theorem step (hclosing : Closing r start v) (hwarned : Warned r v)
    (h : Counted start v) (hstep : Step r v v') : Counted start v' := by
  cases hstep with
  | self => exact h.self
  | again hother _ => exact h.again hother
  | first hother hnew hstored =>
    exact h.first hclosing hwarned hother hnew (r.selfNamed hstored)

end Counted

/-! ## 5. Order of meeting -/

/-- An include was reported, or its set was met after the set that lists it and after whatever that
set lists before. -/
def Honoured (warnings : List RuleWarning) (seen : List String) (owner : String)
    (before : List String) (name : String) : Prop :=
  .includeLoop owner name ∈ warnings ∨ ∀ other ∈ owner :: before, Precedes seen name other

/-- What was said and the order of meeting stay. -/
theorem Honoured.mono {warnings warnings' : List RuleWarning} {seen seen' : List String}
    {owner name : String} {before : List String} (h : Honoured warnings seen owner before name)
    (hwarnings : warnings ⊆ warnings') (hseen : seen.Sublist seen') :
    Honoured warnings' seen' owner before name := by
  rcases h with hsaid | hafter
  · exact Or.inl (hwarnings hsaid)
  · exact Or.inr fun other hother => (hafter other hother).trans hseen

/-- Every include of a set that was met, other than of itself, was honoured once it was looked at:
once no more includes of the set are waiting than are listed behind it. -/
def Ordered (v : Visit) : Prop :=
  ∀ set ∈ v.layers, ∀ before name after, set.includes = before ++ name :: after →
    (waiting set.name v.pending).length ≤ after.length → name ≠ set.name →
      Honoured v.warnings v.seen set.name before name

/-- When an entry is dropped, an include that is looked at from then on was looked at before, or it
is this entry. -/
theorem looked_at_next {seen : List String} {owner name : String}
    {pending : List (String × String)} {set : RuleSet}
    (h : Settled seen ((owner, name) :: pending) set) {before after : List String} {other : String}
    (hsplit : set.includes = before ++ other :: after)
    (hlooked : (waiting set.name pending).length ≤ after.length) :
    (waiting set.name ((owner, name) :: pending)).length ≤ after.length ∨
      (owner = set.name ∧ other = name ∧ ∀ n ∈ before, n ∈ seen) := by
  by_cases hown : owner = set.name
  · subst hown
    rw [waiting_cons_self, List.length_cons]
    by_cases hlonger : (waiting set.name pending).length + 1 ≤ after.length
    · exact Or.inl hlonger
    · right
      obtain ⟨done, hincludes, hdone⟩ := h
      rw [waiting_cons_self, hsplit] at hincludes
      have hlength : (other :: after).length = (name :: waiting set.name pending).length := by
        simp only [List.length_cons]
        omega
      obtain ⟨rfl, hrest⟩ := List.append_inj' hincludes hlength
      exact ⟨rfl, (List.cons.inj hrest).1, hdone⟩
  · rw [waiting_cons_of_ne hown]
    exact Or.inl hlooked

namespace Ordered

theorem of_start {set : RuleSet} (hstored : r.get? start = some set) :
    Ordered (Visit.start start set) := by
  intro found hfound before name after hsplit hlooked _
  obtain rfl := List.mem_singleton.1 hfound
  have hall : waiting found.name (Visit.start start found).pending = found.includes := by
    rw [r.selfNamed hstored]
    exact waiting_map_own start found.includes
  rw [hall, hsplit, List.length_append, List.length_cons] at hlooked
  omega

/-- **Every step keeps the order of meeting.** -/
theorem step (hclosing : Closing r start v) (h : Ordered v)
    (hstep : Step r v v') : Ordered v' := by
  cases hstep with
  | @self seen layers warnings owner pending =>
    intro set hset before name after hsplit hlooked hne
    rcases looked_at_next (hclosing.settled set hset) hsplit hlooked with hold | ⟨hown, hname, -⟩
    · have hbefore := h set hset before name after hsplit hold hne
      exact hbefore.mono (List.subset_append_left _ _) (List.Sublist.refl _)
    · exact absurd (hname.trans hown) hne
  | @again seen layers warnings owner target pending hother hseen =>
    intro set hset before name after hsplit hlooked hne
    rcases looked_at_next (hclosing.settled set hset) hsplit hlooked with hold | ⟨rfl, rfl, -⟩
    · have hbefore := h set hset before name after hsplit hold hne
      exact hbefore.mono (List.subset_append_left _ _) (List.Sublist.refl _)
    · exact Or.inl (List.mem_append_right _ (List.mem_singleton_self _))
  | @first seen layers warnings owner target pending met hother hnew hstored =>
    have hown : met.name = target := r.selfNamed hstored
    intro set hset before name after hsplit hlooked hne
    dsimp only at hlooked ⊢
    rcases List.mem_cons.1 hset with rfl | hold
    · -- of the set met now nothing was looked at
      have hfresh : ∀ entry ∈ pending, entry.1 ≠ target := by
        rintro entry hentry rfl
        exact hnew (hclosing.owners entry (List.mem_cons_of_mem _ hentry))
      rw [hown, waiting_own _ hfresh, hsplit, List.length_append, List.length_cons] at hlooked
      omega
    · have hdifferent : target ≠ set.name := by
        rintro rfl
        exact hnew (hclosing.seen_of_layer hold)
      rw [waiting_other _ hdifferent] at hlooked
      rcases looked_at_next (hclosing.settled set hold) hsplit hlooked with
        hearlier | ⟨hsame, rfl, hdone⟩
      · have hbefore := h set hold before name after hsplit hearlier hne
        exact hbefore.mono (List.Subset.refl _) (List.sublist_cons_self target seen)
      · -- its meeting comes after everything met so far
        right
        intro other hother
        have hmet : other ∈ seen := by
          rcases List.mem_cons.1 hother with rfl | hother
          · exact hclosing.seen_of_layer hold
          · exact hdone other hother
        exact Precedes.cons_of_mem name hmet

end Ordered

/-! ## 6. Whole visits -/

/-- What holds of the warnings in every state of a visit. -/
structure Reported (r : RuleStore) (start : String) (v : Visit) : Prop where
  warned : Warned r v
  counted : Counted start v
  ordered : Ordered v

theorem Reached.reported (h : Reached r start v) : Reported r start v := by
  induction h with
  | start hstored =>
    exact ⟨⟨nofun, nofun⟩, .of_start hstored, .of_start hstored⟩
  | step hv hstep ih =>
    have hclosing := hv.closing
    exact ⟨ih.warned.step hclosing hstep, ih.counted.step hclosing ih.warned hstep,
      ih.ordered.step hclosing hstep⟩

end Visit

namespace RuleStore

variable {r : RuleStore} {name : String}

/-- **Every include of a layer was honoured**: it is reported, or its set comes before the layer and
before whatever the layer lists in front of it. -/
theorem honoured_of_resolve {resolution : Resolution}
    (h : r.resolve name = .ok resolution) {set : RuleSet} (hset : set ∈ resolution.layers)
    {before after : List String} {listed : String}
    (hsplit : set.includes = before ++ listed :: after) (hne : listed ≠ set.name) :
    Visit.Honoured resolution.warnings resolution.names set.name before listed := by
  obtain ⟨v, hv, hend, rfl⟩ := exists_visit_of_resolve h
  have hlooked : (Visit.waiting set.name v.pending).length ≤ after.length := by
    rw [hend]
    exact Nat.zero_le _
  have hhonoured := hv.reported.ordered set hset before listed after hsplit hlooked hne
  have hnames : Resolution.names ⟨v.layers, v.warnings⟩ = v.seen := hv.closing.names
  rw [hnames]
  exact hhonoured

/-- **Every include is honoured or reported.** The includes of a layer by itself are the warnings
about this. Of all entries that name another layer one is honoured (none is needed for the name
that was asked for) and the others are the warnings of a loop to it; such a warning speaks of a
layer and another one that it lists. And where a layer comes before a set that it lists, or before
one that it lists stands another one that it lists later, the warning says so. -/
theorem includes_reported {resolution : Resolution}
    (h : r.resolve name = .ok resolution) :
    (∀ set ∈ resolution.layers,
      resolution.warnings.count (.selfInclude set.name) = set.includes.count set.name) ∧
    (∀ listed ∈ resolution.names, listedElsewhere listed resolution.layers =
      (if listed = name then 0 else 1) + loopsTo listed resolution.warnings) ∧
    (∀ owner listed, .includeLoop owner listed ∈ resolution.warnings →
      owner ∈ resolution.names ∧ listed ∈ resolution.names ∧ owner ≠ listed ∧
        r.Lists owner listed) ∧
    (∀ owner listed, r.Lists owner listed → Precedes resolution.names owner listed →
      .includeLoop owner listed ∈ resolution.warnings) ∧
    (∀ set ∈ resolution.layers, ∀ first later, Precedes set.includes first later →
      later ≠ set.name → Precedes resolution.names first later →
        .includeLoop set.name later ∈ resolution.warnings) := by
  have hcomplete := (complete_of_resolve h).1
  have hhonoured := @honoured_of_resolve r name resolution h
  obtain ⟨v, hv, hend, rfl⟩ := exists_visit_of_resolve h
  have hclosing := hv.closing
  obtain ⟨hwarned, hcounted, -⟩ := hv.reported
  have hnames : Resolution.names ⟨v.layers, v.warnings⟩ = v.seen := hclosing.names
  refine ⟨fun set hset => ?_, fun listed hlisted => ?_, fun owner listed hw => ?_,
    fun owner listed hlists hbefore => ?_, fun set hset first later hincludes hne hbefore => ?_⟩
  · have hcount := hcounted.selves set hset
    rw [hend] at hcount
    exact hcount
  · have hcount := hcounted.others listed
    rw [hnames] at hlisted
    rw [hend] at hcount
    by_cases hroot : listed = name
    · rw [if_neg fun he => he.2 hroot] at hcount
      rw [if_pos hroot]
      exact hcount
    · rw [if_pos ⟨hlisted, hroot⟩] at hcount
      rw [if_neg hroot]
      exact hcount
  · rw [hnames]
    exact hwarned.loop hw
  · have howner : owner ∈ v.seen := hnames ▸ hbefore.mem_left
    obtain ⟨set, hset, rfl, hlisted⟩ := hclosing.exists_layer_of_lists howner hlists
    obtain ⟨before, after, hsplit⟩ := List.append_of_mem hlisted
    have hne : listed ≠ set.name := by
      rintro rfl
      exact hbefore.not_swap hcomplete.distinct hbefore
    rcases hhonoured hset hsplit hne with hsaid | hafter
    · exact hsaid
    · have hswap := hafter set.name List.mem_cons_self
      exact absurd hswap (hbefore.not_swap hcomplete.distinct)
  · obtain ⟨before, after, hsplit, hfirst⟩ := hincludes.exists_split
    rcases hhonoured hset hsplit hne with hsaid | hafter
    · exact hsaid
    · have hswap := hafter first (List.mem_cons_of_mem _ hfirst)
      exact absurd hswap (hbefore.not_swap hcomplete.distinct)

/-- Sets that cross: `x` lists itself, and `r` behind `q` where `r` was met before; `q` leads back
to the beginning. -/
def crossedLayers : List RuleSet :=
  [including "q" ["top"], including "x" ["x", "q", "r"], including "r" [],
    including "top" ["r", "x"]]

/-- The store of these sets. -/
def crossed : RuleStore := .ofList crossedLayers

/-- Of the two entries for `r` one is honoured and the other one reported, as is the way back to the
beginning; `x` is told that it lists itself, and that `r` stands above `q`. -/
theorem includes_reported_crossed :
    ∃ resolution, crossed.resolve "top" = .ok resolution ∧
      resolution.layers = crossedLayers ∧ Precedes resolution.names "q" "r" ∧
      resolution.warnings.count (.selfInclude "x") = 1 ∧
      listedElsewhere "r" resolution.layers = 1 + loopsTo "r" resolution.warnings ∧
      listedElsewhere "top" resolution.layers = 0 + loopsTo "top" resolution.warnings ∧
      .includeLoop "x" "r" ∈ resolution.warnings := by
  have hok : crossed.resolve "top" = .ok ⟨crossedLayers,
      [.selfInclude "x", .includeLoop "q" "top", .includeLoop "x" "r"]⟩ := by cbv
  obtain ⟨hselves, hcounts, hloops, -, hlater⟩ := includes_reported hok
  have hx : including "x" ["x", "q", "r"] ∈ crossedLayers :=
    List.mem_cons_of_mem _ List.mem_cons_self
  have habove : Precedes (crossedLayers.map (·.name)) "q" "r" :=
    List.isSublist_iff_sublist.1 (by decide +kernel)
  have hlisted : Precedes (including "x" ["x", "q", "r"]).includes "q" "r" :=
    List.isSublist_iff_sublist.1 (by decide +kernel)
  have hsaid := hlater _ hx "q" "r" hlisted (by decide) habove
  obtain ⟨-, hr, -, -⟩ := hloops "x" "r" hsaid
  obtain ⟨-, htop, -, -⟩ := hloops "q" "top" (by decide +kernel)
  exact ⟨_, hok, rfl, habove, hselves _ hx, hcounts "r" hr, hcounts "top" htop, hsaid⟩

end RuleStore

end Lettering
