import Mathlib.Data.List.Nodup
import Mathlib.Logic.Relation
import Lettering.Repository.RuleStore

/-!
# What a visit of includes reaches

Resolving a name visits the includes of its rule set depth first. Here the visit is a step relation
on its states, and what one step keeps holds along the whole visit.

* `Visit.Step`: what a visit does with the next include; `Visit.Reached`: the states that the visit
  of a name comes to; `resolve_cases`: how it can end.
* `Visit.Closing`: the invariant. Sets met are stored, distinct and reachable, and of the includes
  of each what is no longer waiting was met. So a visit that ends has met whatever is reachable.
* `resolve_reachable`: which of the three answers a name gets, and what each says.
-/

namespace Lettering

/-- The names of the layers, in their order. -/
def Resolution.names (resolution : Resolution) : List String := resolution.layers.map (·.name)

namespace RuleStore

/-! ## 1. Stores and their include relation -/

/-- A stored set lists a name among its includes. -/
def Lists (r : RuleStore) (owner name : String) : Prop :=
  ∃ set, r.get? owner = some set ∧ name ∈ set.includes

/-- A name is reached from another one through includes. -/
def Reaches (r : RuleStore) : String → String → Prop := Relation.ReflTransGen r.Lists

/-- A stored set that is reached from a name lists another name that is not stored. -/
structure Dangling (r : RuleStore) (start owner missing : String) : Prop where
  reached : r.Reaches start owner
  lists : r.Lists owner missing
  notStored : r.get? missing = none

end RuleStore

/-! ## 2. States of a visit -/

/-- A state of a visit: the names met, the last one in front, their sets in the same order, the
warnings so far, and the includes still to be looked at, each with the set that lists it. -/
structure Visit where
  seen : List String
  layers : List RuleSet
  warnings : List RuleWarning
  pending : List (String × String)

namespace Visit

/-- The visit of a set at its beginning. -/
def start (name : String) (set : RuleSet) : Visit :=
  ⟨[name], [set], [], set.includes.map (name, ·)⟩

/-- What the rest of a visit comes to. -/
def finish (r : RuleStore) (v : Visit) : Except RepositoryError Resolution :=
  r.visit v.seen v.layers v.warnings v.pending

/-- **One step of a visit**: the next include is the set itself, a set met before, or a stored set
met for the first time. -/
inductive Step (r : RuleStore) : Visit → Visit → Prop where
  | self {seen layers warnings owner pending} :
      Step r ⟨seen, layers, warnings, (owner, owner) :: pending⟩
        ⟨seen, layers, warnings ++ [.selfInclude owner], pending⟩
  | again {seen layers warnings owner name pending} (hother : name ≠ owner)
      (hseen : name ∈ seen) :
      Step r ⟨seen, layers, warnings, (owner, name) :: pending⟩
        ⟨seen, layers, warnings ++ [.includeLoop owner name], pending⟩
  | first {seen layers warnings owner name pending set} (hother : name ≠ owner)
      (hnew : name ∉ seen) (hstored : r.get? name = some set) :
      Step r ⟨seen, layers, warnings, (owner, name) :: pending⟩
        ⟨name :: seen, set :: layers, warnings, set.includes.map (name, ·) ++ pending⟩

/-- The states that the visit of a name comes to. -/
inductive Reached (r : RuleStore) (name : String) : Visit → Prop where
  | start {set : RuleSet} (hstored : r.get? name = some set) : Reached r name (start name set)
  | step {v v' : Visit} (h : Reached r name v) (hstep : Step r v v') : Reached r name v'

/-- A visit stops at an include that is not stored. -/
def StopsAt (r : RuleStore) (v : Visit) (owner name : String) : Prop :=
  (∃ rest, v.pending = (owner, name) :: rest) ∧ name ∉ v.seen ∧ r.get? name = none

/-- A visit either looks at every include or stops at one. -/
theorem Reached.ends {r : RuleStore} {name : String} {v : Visit} (h : Reached r name v) :
    (∃ v', Reached r name v' ∧ v'.pending = [] ∧ v.finish r = .ok ⟨v'.layers, v'.warnings⟩) ∨
      ∃ v' owner missing, Reached r name v' ∧ v'.StopsAt r owner missing ∧
        v.finish r = .error (.missingInclude owner missing) := by
  obtain ⟨seen, layers, warnings, pending⟩ := v
  unfold finish
  dsimp only
  fun_induction RuleStore.visit r seen layers warnings pending with
  | case1 seen layers warnings => exact Or.inl ⟨_, h, rfl, rfl⟩
  | case2 seen layers warnings owner pending ih => exact ih (h.step .self)
  | case3 seen layers warnings owner name pending hother hseen ih =>
    exact ih (h.step (.again hother (by simpa using hseen)))
  | case4 seen layers warnings owner name pending hother hnew hmissing =>
    exact Or.inr ⟨_, owner, name, h, ⟨⟨pending, rfl⟩, by simpa using hnew, hmissing⟩, rfl⟩
  | case5 seen layers warnings owner name pending hother hnew set hstored ih =>
    simp only [List.map_subtype, List.unattach_attach] at ih ⊢
    exact ih (h.step (.first hother (by simpa using hnew) hstored))

/-! ## 3. Includes still to be looked at -/

/-- Of the includes still to be looked at those of one set. -/
def waiting (owner : String) (pending : List (String × String)) : List String :=
  pending.filterMap fun entry => if entry.1 = owner then some entry.2 else none

section Waiting

variable {owner name : String} {pending : List (String × String)}

theorem waiting_cons_self (owner name : String) (pending : List (String × String)) :
    waiting owner ((owner, name) :: pending) = name :: waiting owner pending := by
  simp [waiting]

theorem waiting_cons_of_ne {other : String} (h : owner ≠ other) (name : String)
    (pending : List (String × String)) :
    waiting other ((owner, name) :: pending) = waiting other pending := by
  simp [waiting, h]

theorem mem_waiting_iff : name ∈ waiting owner pending ↔ (owner, name) ∈ pending := by
  simp [waiting]

theorem waiting_eq_nil (h : ∀ entry ∈ pending, entry.1 ≠ owner) : waiting owner pending = [] :=
  List.filterMap_eq_nil_iff.2 fun entry hentry => if_neg (h entry hentry)

theorem waiting_map_own (owner : String) (includes : List String) :
    waiting owner (includes.map (owner, ·)) = includes := by
  simp [waiting, List.filterMap_map]

/-- When a set is met all its includes are waiting. -/
theorem waiting_own (includes : List String) (h : ∀ entry ∈ pending, entry.1 ≠ owner) :
    waiting owner (includes.map (owner, ·) ++ pending) = includes := by
  rw [waiting, List.filterMap_append, ← waiting, ← waiting, waiting_map_own, waiting_eq_nil h,
    List.append_nil]

/-- The includes of another set come in front of none of its own. -/
theorem waiting_other (includes : List String) {other : String} (h : owner ≠ other)
    (pending : List (String × String)) :
    waiting other (includes.map (owner, ·) ++ pending) = waiting other pending := by
  have hnone : waiting other (includes.map (owner, ·)) = [] := by
    simp [waiting, List.filterMap_map, h]
  rw [waiting, List.filterMap_append, ← waiting, ← waiting, hnone, List.nil_append]

end Waiting

/-! ## 4. What every step keeps -/

/-- Of the includes of a set those that are no longer waiting were met. -/
def Settled (seen : List String) (pending : List (String × String)) (set : RuleSet) : Prop :=
  ∃ done, set.includes = done ++ waiting set.name pending ∧ ∀ name ∈ done, name ∈ seen

/-- An include is dropped once its set was met. -/
theorem Settled.next {seen seen' : List String} {owner name : String}
    {pending : List (String × String)} {set : RuleSet}
    (h : Settled seen ((owner, name) :: pending) set) (hsub : seen ⊆ seen')
    (hname : name ∈ seen') : Settled seen' pending set := by
  obtain ⟨done, hsplit, hdone⟩ := h
  by_cases hown : owner = set.name
  · subst hown
    rw [waiting_cons_self] at hsplit
    refine ⟨done ++ [name], by simpa using hsplit, fun n hn => ?_⟩
    rcases List.mem_append.1 hn with hn | hn
    · exact hsub (hdone n hn)
    · rwa [List.mem_singleton.1 hn]
  · rw [waiting_cons_of_ne hown] at hsplit
    exact ⟨done, hsplit, fun n hn => hsub (hdone n hn)⟩

/-- **The invariant of a visit.** -/
structure Closing (r : RuleStore) (start : String) (v : Visit) : Prop where
  names : v.layers.map (·.name) = v.seen
  distinct : v.seen.Nodup
  stored : ∀ set ∈ v.layers, r.get? set.name = some set
  root : v.seen.getLast? = some start
  reached : ∀ name ∈ v.seen, r.Reaches start name
  owners : ∀ entry ∈ v.pending, entry.1 ∈ v.seen
  settled : ∀ set ∈ v.layers, Settled v.seen v.pending set

namespace Closing

variable {r : RuleStore} {start : String} {v v' : Visit}

theorem of_start {set : RuleSet} (hstored : r.get? start = some set) :
    Closing r start (Visit.start start set) where
  names := by simp [Visit.start, r.selfNamed hstored]
  distinct := List.nodup_singleton _
  stored found hfound := by
    obtain rfl := List.mem_singleton.1 hfound
    rw [r.selfNamed hstored, hstored]
  root := rfl
  reached name hname := by
    obtain rfl := List.mem_singleton.1 hname
    exact .refl
  owners entry hentry := by
    obtain ⟨name, -, rfl⟩ := List.mem_map.1 hentry
    exact List.mem_singleton_self _
  settled found hfound := by
    obtain rfl := List.mem_singleton.1 hfound
    rw [← r.selfNamed hstored]
    refine ⟨[], ?_, nofun⟩
    rw [List.nil_append]
    exact (waiting_map_own _ _).symm

theorem seen_of_layer (h : Closing r start v) {set : RuleSet} (hset : set ∈ v.layers) :
    set.name ∈ v.seen := by
  rw [← h.names]
  exact List.mem_map_of_mem hset

/-- A name that was met is that of a layer. -/
theorem exists_layer (h : Closing r start v) {name : String} (hname : name ∈ v.seen) :
    ∃ set ∈ v.layers, set.name = name := by
  rw [← h.names] at hname
  exact List.mem_map.1 hname

/-- What a set that was met lists can be read off its layer. -/
theorem exists_layer_of_lists (h : Closing r start v) {owner name : String}
    (howner : owner ∈ v.seen) (hlists : r.Lists owner name) :
    ∃ set ∈ v.layers, set.name = owner ∧ name ∈ set.includes := by
  obtain ⟨set, hset, rfl⟩ := h.exists_layer howner
  obtain ⟨found, hfound, hname⟩ := hlists
  have hsame : found = set := Option.some.inj (hfound.symm.trans (h.stored set hset))
  exact ⟨set, hset, rfl, hsame ▸ hname⟩

/-- An include still to be looked at is listed by its set. -/
theorem lists (h : Closing r start v) {owner name : String} (hentry : (owner, name) ∈ v.pending) :
    r.Lists owner name := by
  obtain ⟨set, hset, rfl⟩ := h.exists_layer (h.owners _ hentry)
  obtain ⟨done, hsplit, -⟩ := h.settled set hset
  refine ⟨set, h.stored set hset, ?_⟩
  rw [hsplit]
  exact List.mem_append_right _ (mem_waiting_iff.2 hentry)

/-- An include of a set met before is dropped. -/
theorem dropped {seen : List String} {layers : List RuleSet} {warnings : List RuleWarning}
    {owner name : String} {pending : List (String × String)}
    (h : Closing r start ⟨seen, layers, warnings, (owner, name) :: pending⟩)
    (hname : name ∈ seen) (warnings' : List RuleWarning) :
    Closing r start ⟨seen, layers, warnings', pending⟩ where
  names := h.names
  distinct := h.distinct
  stored := h.stored
  root := h.root
  reached := h.reached
  owners entry hentry := h.owners entry (List.mem_cons_of_mem _ hentry)
  settled set hset := (h.settled set hset).next (List.Subset.refl _) hname

/-- **Every step keeps the invariant.** -/
theorem step (h : Closing r start v) (hstep : Step r v v') :
    Closing r start v' := by
  cases hstep with
  | self => exact h.dropped (h.owners _ List.mem_cons_self) _
  | again hother hseen => exact h.dropped hseen _
  | @first seen layers warnings owner name pending set hother hnew hstored =>
    have hown : set.name = name := r.selfNamed hstored
    have hlists : r.Lists owner name := h.lists List.mem_cons_self
    have howner : owner ∈ seen := h.owners _ List.mem_cons_self
    have hrest : ∀ entry ∈ pending, entry.1 ∈ seen := fun entry hentry =>
      h.owners entry (List.mem_cons_of_mem _ hentry)
    have hfresh : ∀ entry ∈ pending, entry.1 ≠ name := by
      rintro entry hentry rfl
      exact hnew (hrest entry hentry)
    refine ⟨?_, ?_, ?_, ?_, ?_, ?_, ?_⟩
    · exact congrArg₂ List.cons hown h.names
    · exact List.nodup_cons.2 ⟨hnew, h.distinct⟩
    · intro found hfound
      rcases List.mem_cons.1 hfound with rfl | hfound
      · rw [hown, hstored]
      · exact h.stored found hfound
    · dsimp only
      rw [List.getLast?_cons, h.root]
      rfl
    · intro n hn
      rcases List.mem_cons.1 hn with rfl | hn
      · exact (h.reached owner howner).tail hlists
      · exact h.reached n hn
    · intro entry hentry
      rcases List.mem_append.1 hentry with hentry | hentry
      · obtain ⟨n, -, rfl⟩ := List.mem_map.1 hentry
        exact List.mem_cons_self
      · exact List.mem_cons_of_mem _ (hrest entry hentry)
    · intro found hfound
      rcases List.mem_cons.1 hfound with rfl | hold
      · -- the set met now: none of its includes was looked at yet
        refine ⟨[], ?_, nofun⟩
        rw [hown, waiting_own _ hfresh]
        rfl
      · have hne : name ≠ found.name := by
          rintro rfl
          exact hnew (h.seen_of_layer hold)
        obtain ⟨done, hsplit, hdone⟩ :=
          (h.settled found hold).next (List.subset_cons_self name seen) List.mem_cons_self
        refine ⟨done, ?_, hdone⟩
        rw [waiting_other _ hne, hsplit]

end Closing

/-- The invariant holds in every state of a visit. -/
theorem Reached.closing {r : RuleStore} {start : String} {v : Visit}
    (h : Reached r start v) : Closing r start v := by
  induction h with
  | start hstored => exact .of_start hstored
  | step _ hstep ih => exact ih.step hstep

namespace Closing

variable {r : RuleStore} {start : String} {v : Visit}

/-- A visit that has looked at every include has met exactly the names that are reached. -/
theorem mem_seen_iff (h : Closing r start v) (hend : v.pending = []) {name : String} :
    name ∈ v.seen ↔ r.Reaches start name := by
  refine ⟨h.reached name, fun hreach => ?_⟩
  induction hreach with
  | refl => exact List.mem_of_getLast? h.root
  | tail _ hlists ih =>
    obtain ⟨set, hset, -, hname⟩ := h.exists_layer_of_lists ih hlists
    obtain ⟨done, hsplit, hdone⟩ := h.settled set hset
    rw [hend, waiting, List.filterMap_nil, List.append_nil] at hsplit
    exact hdone _ (hsplit ▸ hname)

/-- Where a visit stops, a set that is reached lists what is not stored. -/
theorem dangling (h : Closing r start v) {owner missing : String}
    (hstop : v.StopsAt r owner missing) : r.Dangling start owner missing := by
  obtain ⟨⟨rest, hpending⟩, -, hmissing⟩ := hstop
  have hentry : (owner, missing) ∈ v.pending := hpending ▸ List.mem_cons_self
  exact ⟨h.reached owner (h.owners _ hentry), h.lists hentry, hmissing⟩

/-- A visit that has looked at every include has found each of them stored. -/
theorem not_dangling (h : Closing r start v) (hend : v.pending = []) (owner missing : String) :
    ¬ r.Dangling start owner missing := fun hd => by
  have hseen : missing ∈ v.seen := (h.mem_seen_iff hend).2 (hd.reached.tail hd.lists)
  obtain ⟨set, hset, rfl⟩ := h.exists_layer hseen
  have hnone := hd.notStored
  rw [h.stored set hset] at hnone
  cases hnone

end Closing

end Visit

/-! ## 5. Answers -/

namespace RuleStore

/-- A resolution with everything that a name reaches: each set once and as it is stored, the set of
the name itself last. -/
structure Complete (r : RuleStore) (name : String) (resolution : Resolution) : Prop where
  distinct : resolution.names.Nodup
  reached : ∀ other, other ∈ resolution.names ↔ r.Reaches name other
  stored : ∀ set ∈ resolution.layers, r.get? set.name = some set
  last : resolution.names.getLast? = some name

variable {r : RuleStore} {name : String}

theorem resolve_of_not_stored (h : r.get? name = none) :
    r.resolve name = .error (.notFound name) := by
  unfold resolve
  unfold get? at h
  rw [h]

theorem resolve_of_stored {set : RuleSet} (h : r.get? name = some set) :
    r.resolve name = (Visit.start name set).finish r := by
  unfold resolve
  unfold get? at h
  rw [h]
  rfl

/-- **A stored name is resolved by a visit that looks at every include, or ends at one that is not
stored.** -/
theorem resolve_cases {set : RuleSet} (h : r.get? name = some set) :
    (∃ v, Visit.Reached r name v ∧ v.pending = [] ∧ r.resolve name = .ok ⟨v.layers, v.warnings⟩) ∨
      ∃ v owner missing, Visit.Reached r name v ∧ v.StopsAt r owner missing ∧
        r.resolve name = .error (.missingInclude owner missing) := by
  rw [resolve_of_stored h]
  exact (Visit.Reached.start h).ends

/-- A resolution is what a visit has found when it has looked at every include. -/
theorem exists_visit_of_resolve {resolution : Resolution} (h : r.resolve name = .ok resolution) :
    ∃ v, Visit.Reached r name v ∧ v.pending = [] ∧ resolution = ⟨v.layers, v.warnings⟩ := by
  cases hget : r.get? name with
  | none =>
    rw [resolve_of_not_stored hget] at h
    cases h
  | some set =>
    rcases resolve_cases hget with ⟨v, hv, hend, hok⟩ | ⟨v, owner, missing, -, -, herror⟩
    · cases hok.symm.trans h
      exact ⟨v, hv, hend, rfl⟩
    · cases herror.symm.trans h

/-- A resolution holds everything that the name reaches, and nothing is missing. -/
theorem complete_of_resolve {resolution : Resolution}
    (h : r.resolve name = .ok resolution) :
    r.Complete name resolution ∧ ∀ owner missing, ¬ r.Dangling name owner missing := by
  obtain ⟨v, hv, hend, rfl⟩ := exists_visit_of_resolve h
  have hclosing := hv.closing
  have hnames : Resolution.names ⟨v.layers, v.warnings⟩ = v.seen := hclosing.names
  refine ⟨⟨?_, fun other => ?_, hclosing.stored, ?_⟩, hclosing.not_dangling hend⟩
  · rw [hnames]
    exact hclosing.distinct
  · rw [hnames]
    exact hclosing.mem_seen_iff hend
  · rw [hnames]
    exact hclosing.root

/-- What a name lists it has to be stored for. -/
theorem Dangling.stored {owner missing : String} (h : r.Dangling name owner missing) :
    ∃ set, r.get? name = some set := by
  rcases Relation.ReflTransGen.cases_head h.reached with rfl | ⟨next, ⟨set, hset, -⟩, -⟩
  · obtain ⟨set, hset, -⟩ := h.lists
    exact ⟨set, hset⟩
  · exact ⟨set, hset⟩

/-- A missing include is one of a set that is reached. -/
theorem dangling_of_resolve {owner missing : String}
    (h : r.resolve name = .error (.missingInclude owner missing)) :
    r.Dangling name owner missing := by
  cases hget : r.get? name with
  | none =>
    rw [resolve_of_not_stored hget] at h
    cases h
  | some set =>
    rcases resolve_cases hget with ⟨v, -, -, hok⟩ | ⟨v, owner', missing', hv, hstop, herror⟩
    · cases hok.symm.trans h
    · cases herror.symm.trans h
      exact hv.closing.dangling hstop

/-- **Every name is answered in one of three ways, and each answer is right.** A name that is not
stored is not found. Of a stored name whose includes reach a set that lists a name not stored, such
a set and name are reported. Any other name is resolved to everything that it reaches. -/
theorem resolve_reachable (r : RuleStore) (name : String) :
    (∀ bundle, r.resolve name = .error (.notFound bundle) ↔
      bundle = name ∧ r.get? name = none) ∧
    ((∃ owner missing, r.resolve name = .error (.missingInclude owner missing)) ↔
      r.get? name ≠ none ∧ ∃ owner missing, r.Dangling name owner missing) ∧
    (∀ owner missing, r.resolve name = .error (.missingInclude owner missing) →
      r.Dangling name owner missing) ∧
    (r.get? name ≠ none → (¬ ∃ owner missing, r.Dangling name owner missing) →
      ∃ resolution, r.resolve name = .ok resolution ∧ r.Complete name resolution) := by
  refine ⟨fun bundle => ?_, ?_, fun owner missing => dangling_of_resolve, ?_⟩
  · cases hget : r.get? name with
    | none =>
      rw [resolve_of_not_stored hget]
      simp [eq_comm]
    | some set =>
      rcases resolve_cases hget with ⟨v, -, -, hok⟩ | ⟨v, owner, missing, -, -, herror⟩
      · simp [hok]
      · simp [herror]
  · constructor
    · rintro ⟨owner, missing, h⟩
      have hd := dangling_of_resolve h
      obtain ⟨set, hset⟩ := hd.stored
      exact ⟨by simp [hset], owner, missing, hd⟩
    · rintro ⟨hstored, owner, missing, hd⟩
      obtain ⟨set, hget⟩ := Option.ne_none_iff_exists'.1 hstored
      rcases resolve_cases hget with ⟨v, -, -, hok⟩ | ⟨v, owner, missing, -, -, herror⟩
      · exact absurd hd ((complete_of_resolve hok).2 owner missing)
      · exact ⟨owner, missing, herror⟩
  · intro hstored hwhole
    obtain ⟨set, hget⟩ := Option.ne_none_iff_exists'.1 hstored
    rcases resolve_cases hget with ⟨v, -, -, hok⟩ | ⟨v, owner, missing, -, -, herror⟩
    · exact ⟨_, hok, (complete_of_resolve hok).1⟩
    · exact absurd ⟨owner, missing, dangling_of_resolve herror⟩ hwhole

/-- A set without rules that includes others. -/
def including (name : String) (includes : List String) : RuleSet := ⟨name, .empty, [], includes⟩

/-- Sets that include each other in a ring, one of them also itself and one twice. -/
def ringLayers : List RuleSet :=
  [including "c" ["a"], including "b" ["b", "c", "c"], including "a" ["b", "c"]]

/-- The ring, and beside it a set that includes one of its sets and a name that is not stored. -/
def ring : RuleStore := .ofList (including "lost" ["a", "ghost"] :: ringLayers)

/-- In the ring every set is met once, although `b` and `c` are listed several times; from the set
beside it the missing include is reported, and what is not stored is not found. -/
theorem resolve_reachable_ring :
    (∃ resolution, ring.resolve "a" = .ok resolution ∧ ring.Complete "a" resolution ∧
        resolution.layers = ringLayers) ∧
      ring.resolve "lost" = .error (.missingInclude "lost" "ghost") ∧
      ring.Dangling "lost" "lost" "ghost" ∧
      ring.resolve "ghost" = .error (.notFound "ghost") := by
  have hring : ring.resolve "a" = .ok ⟨ringLayers,
      [.selfInclude "b", .includeLoop "c" "a", .includeLoop "b" "c", .includeLoop "a" "c"]⟩ := by
    cbv
  have hlost : ring.resolve "lost" = .error (.missingInclude "lost" "ghost") := by cbv
  have hget : ring.get? "a" = some (including "a" ["b", "c"]) := by cbv
  have hghost : ring.get? "ghost" = none := by cbv
  obtain ⟨-, hmissing, -, hwhole⟩ := resolve_reachable ring "a"
  have hstored : ring.get? "a" ≠ none := by
    rw [hget]
    exact Option.some_ne_none _
  have hsound : ¬ ∃ owner missing, ring.Dangling "a" owner missing := fun hd => by
    obtain ⟨owner, missing, herror⟩ := hmissing.2 ⟨hstored, hd⟩
    cases hring.symm.trans herror
  obtain ⟨resolution, hfound, hcomplete⟩ := hwhole hstored hsound
  cases hring.symm.trans hfound
  obtain ⟨hnone, -⟩ := resolve_reachable ring "ghost"
  obtain ⟨-, -, hright, -⟩ := resolve_reachable ring "lost"
  refine ⟨⟨_, hring, hcomplete, rfl⟩, hlost, hright _ _ hlost, ?_⟩
  exact (hnone "ghost").2 ⟨rfl, hghost⟩

end RuleStore

end Lettering
