import Lettering.Repository.Basic

/-!
# Rule stores

A repository that holds its rule sets in memory, each under its own name and in the order of the
names.

Resolving a name visits the includes depth first. Each set met for the first time is put below
those met before it, so that a set stands above what it includes and above what is included after
it. An include of the set itself, and of a set that was met already, is left out with a warning;
an include that is not stored ends the visit.

The visit keeps the includes still to be looked at, each with the set that lists it. It ends because
every step either meets a stored set for the first time or drops one include.
-/

namespace Lettering

/-- Rule sets by name, each under its own. -/
structure RuleStore where
  sets : Std.ExtTreeMap String RuleSet
  selfNamed : ∀ {name : String} {set : RuleSet}, sets[name]? = some set → set.name = name
  deriving DecidableEq

namespace RuleStore

/-- The store without rule sets. -/
def empty : RuleStore where
  sets := ∅
  selfNamed h := by simp at h

/-- The rule set of a name. -/
def get? (r : RuleStore) (name : String) : Option RuleSet := r.sets[name]?

/-- Stores a rule set under its own name, in place of what was there. -/
def insert (r : RuleStore) (set : RuleSet) : RuleStore where
  sets := r.sets.insert set.name set
  selfNamed {name found} h := by
    rw [Std.ExtTreeMap.getElem?_insert] at h
    split at h
    · rename_i hname
      cases h
      exact Std.LawfulEqCmp.eq_of_compare hname
    · exact r.selfNamed h

/-- Stores the rule set of a JSON text. -/
def insertDocument (r : RuleStore) (name text : String) :
    Except RuleError RuleStore := do
  return r.insert (← RuleSet.ofJson name text)

/-- The store of a list of rule sets, of which the last one of a name counts. -/
def ofList (sets : List RuleSet) : RuleStore := sets.foldl insert empty

/-- The number of rule sets. -/
def size (r : RuleStore) : Nat := r.sets.size

/-- Whether there is no rule set. -/
def isEmpty (r : RuleStore) : Bool := r.sets.isEmpty

/-- The names in order. -/
def names (r : RuleStore) : List String := r.sets.keys

/-- Whether a name is stored. -/
def contains (r : RuleStore) (name : String) : Bool := r.sets.contains name

/-! ## 1. Resolving -/

/-- The stored names that were not met yet. -/
def unseen (r : RuleStore) (seen : List String) : List String :=
  r.names.filter fun name => !seen.contains name

/-- Meeting a stored name for the first time leaves fewer to meet. -/
theorem length_unseen_lt (r : RuleStore) {seen : List String} {name : String}
    {set : RuleSet} (hs : r.sets[name]? = some set) (hn : ¬ seen.contains name = true) :
    (r.unseen (name :: seen)).length < (r.unseen seen).length := by
  have hmem : name ∈ r.names := by
    unfold names
    rw [Std.ExtTreeMap.mem_keys]
    rw [Std.ExtTreeMap.mem_iff_isSome_getElem?, hs]
    rfl
  have hsplit : r.unseen (name :: seen) = (r.unseen seen).filter fun n => !(n == name) := by
    unfold unseen
    rw [List.filter_filter]
    congr 1
    funext n
    simp only [List.contains_cons, Bool.not_or]
  rw [hsplit]
  apply List.length_filter_lt_length_iff_exists.2
  refine ⟨name, ?_, by simp⟩
  unfold unseen
  rw [List.mem_filter]
  exact ⟨hmem, by simpa using hn⟩

/-- Visits the includes still to be looked at, each with the name of the set that lists it. The
layers have the set met last in front. -/
def visit (r : RuleStore) (seen : List String) (layers : List RuleSet)
    (warnings : List RuleWarning) :
    List (String × String) → Except RepositoryError Resolution
  | [] => .ok ⟨layers, warnings⟩
  | (owner, name) :: rest =>
    if name = owner then r.visit seen layers (warnings ++ [.selfInclude owner]) rest
    else if hn : seen.contains name then
      r.visit seen layers (warnings ++ [.includeLoop owner name]) rest
    else match _hs : r.sets[name]? with
      | none => .error (.missingInclude owner name)
      | some set =>
        r.visit (name :: seen) (set :: layers) warnings (set.includes.map (name, ·) ++ rest)
termination_by pending => ((r.unseen seen).length, pending.length)
decreasing_by
  · exact Prod.Lex.right _ (by simp)
  · exact Prod.Lex.right _ (by simp)
  · exact Prod.Lex.left _ _ (r.length_unseen_lt _hs hn)

/-- The layers of a name. -/
def resolve (r : RuleStore) (name : String) : Except RepositoryError Resolution :=
  match r.sets[name]? with
  | none => .error (.notFound name)
  | some set => r.visit [name] [set] [] (set.includes.map (name, ·))

/-- A set without includes is the only layer of its name. -/
theorem resolve_of_no_includes {r : RuleStore} {name : String} {set : RuleSet}
    (h : r.get? name = some set) (hnone : set.includes = []) :
    r.resolve name = .ok ⟨[set], []⟩ := by
  have hstored : r.sets[name]? = some set := h
  simp only [resolve, hstored, hnone, List.map_nil, visit]

instance : Repository RuleStore where
  names := names
  contains := contains
  resolve := resolve

end RuleStore

end Lettering
