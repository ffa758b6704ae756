import Lettering.Proofs.Naming
import Lettering.Proofs.Visiting

/-!
# Names that a composer lists

A composer lists every set of every repository as `repository:set`, and reads a name at its first
colon when it is asked to load it. Colons in the name of the set do no harm. One in the name of the
repository does, and any text can be bound as one: the listed name is then read as that of another
repository.

* `Composer.listed`, `mem_offers_iff`: the names on the list.
* `splitName_listed`, `listed_injective`: what a listed name is read as, and that it stands for one
  set, where the repository has no colon in its name.
* `load_of_repositoryFor`: what loading answers once the repository is found; `buildEntry_error`: the
  two ways in which a stored set is not built.
* `Composer.load_listed`: a listed name is loaded as what it lists exactly if the repository has no
  colon in its name, and `listed_elsewhere` shows names that are refused or loaded as another set.
-/

namespace Lettering

namespace Composer

/-! ## 1. The list -/

/-- The name that a set of a repository is listed by. -/
def listed (repository bundle : String) : String :=
  repository ++ String.singleton BundleKey.nameSeparator ++ bundle

theorem toList_listed (repository bundle : String) : (listed repository bundle).toList =
    repository.toList ++ BundleKey.nameSeparator :: bundle.toList := by
  simp [listed]

theorem splitFirst_listed {repository : String} (h : BundleKey.nameSeparator ∉ repository.toList)
    (bundle : String) : Text.splitFirst BundleKey.nameSeparator (listed repository bundle).toList =
      some (repository.toList, bundle.toList) :=
  Text.splitFirst_eq_some_iff.2 ⟨toList_listed repository bundle, h⟩

/-- The name of a repository with a colon in it lists a set of the repository before the colon. -/
theorem listed_assoc (front rest bundle : String) :
    listed (listed front rest) bundle = listed front (listed rest bundle) := by
  simp only [listed, String.append_assoc]

/-- A listed name is read as what it lists, if there is no colon in the repository's name. -/
theorem splitName_listed {repository : String}
    (h : BundleKey.nameSeparator ∉ repository.toList) (bundle : String) :
    splitName (listed repository bundle) = (some repository, bundle) := by
  rw [splitName, splitFirst_listed h]
  simp only [String.ofList_toList]

/-- One name does not list two sets of repositories without colons in their names. -/
theorem listed_injective {repository repository' bundle bundle' : String}
    (h : BundleKey.nameSeparator ∉ repository.toList)
    (h' : BundleKey.nameSeparator ∉ repository'.toList)
    (hsame : listed repository bundle = listed repository' bundle') :
    repository = repository' ∧ bundle = bundle' := by
  have hread := congrArg splitName hsame
  rw [splitName_listed h, splitName_listed h'] at hread
  simpa using hread

section AnyEngine

variable [Regex.Engine]

theorem mem_offers_iff {ρ : Type} [Repository ρ] {c : Composer ρ} {name : String} :
    name ∈ c.offers ↔
      ∃ r ∈ c.repositories, ∃ bundle ∈ Repository.names r.2, listed r.1 bundle = name := by
  simp only [offers, List.mem_flatMap, List.mem_map, listed]

/-! ## 2. Loading from a repository -/

section Loading

variable {ρ : Type} {c : Composer ρ}

/-- The names of repositories being distinct, a bound repository is found by its name. -/
theorem find_of_mem {r : String} {repository : ρ} (hnames : c.repositoryNames.Nodup)
    (hr : (r, repository) ∈ c.repositories) :
    c.repositories.find? (fun s => s.1 == r) = some (r, repository) := by
  obtain ⟨s, hs⟩ : ∃ s, c.repositories.find? (fun s => s.1 == r) = some s :=
    Option.isSome_iff_exists.1 (List.find?_isSome.2 ⟨_, hr, beq_self_eq_true _⟩)
  have hname : s.1 = r := by simpa using List.find?_some hs
  rw [hs, List.inj_on_of_nodup_map hnames (List.mem_of_find?_eq_some hs) hr hname]

variable [Repository ρ]

/-- Once its repository is found, a name is answered with its key, unless it has to be built and that
fails. -/
theorem load_of_repositoryFor {name : String} {key : BundleKey} {repository : ρ}
    (h : c.repositoryFor name = .ok (key.repository, repository))
    (hbundle : key.bundle = (splitName name).2) :
    (c.load name key.alternate).1 = if key ∈ c.loadedKeys then .ok key
      else (buildEntry c.flatten repository key).map fun _ => key := by
  have hkey : (⟨key.repository, (splitName name).2, key.alternate⟩ : BundleKey) = key := by
    rw [← hbundle]
  unfold load
  simp only [h, hkey, isSome_entry_iff]
  split
  · rfl
  · cases buildEntry c.flatten repository key with
    | error e => rfl
    | ok l => rfl

end Loading

/-- A stored set is not built for a missing include or for a rule, and for nothing else. -/
theorem buildEntry_error {flatten : Bool} {store : RuleStore} {key : BundleKey} {e : ComposerError}
    (hstored : key.bundle ∈ store.names) (h : buildEntry flatten store key = .error e) :
    (∃ owner missing, e = .repository (.missingInclude owner missing)) ∨
      ∃ problem, e = .rule problem := by
  have hmem : key.bundle ∈ store.sets := Std.ExtTreeMap.mem_keys.1 hstored
  obtain ⟨set, hset⟩ : ∃ set, store.get? key.bundle = some set :=
    Option.isSome_iff_exists.1 (Std.ExtTreeMap.mem_iff_isSome_getElem?.1 hmem)
  unfold buildEntry at h
  split at h
  · rename_i e' he
    cases h
    rcases RuleStore.resolve_cases hset with ⟨v, -, -, hok⟩ | ⟨v, owner, missing, -, -, herror⟩
    · cases he.symm.trans hok
    · cases he.symm.trans herror
      exact .inl ⟨owner, missing, rfl⟩
  · split at h
    · cases h
      exact .inr ⟨_, rfl⟩
    · cases h

/-! ## 3. Loading what is listed -/

variable {c : Composer RuleStore} {r b : String} {store : RuleStore}

/-- The repository of a listed set is found by the listed name. -/
theorem repositoryFor_listed (hnames : c.repositoryNames.Nodup) (hr : (r, store) ∈ c.repositories)
    (hb : b ∈ store.names) (hcolon : BundleKey.nameSeparator ∉ r.toList) :
    c.repositoryFor (listed r b) = .ok (r, store) := by
  have hcontains : Repository.contains store b = true :=
    Std.ExtTreeMap.contains_iff_mem.2 (Std.ExtTreeMap.mem_keys.1 hb)
  simp only [repositoryFor, splitName_listed hcolon, find_of_mem hnames hr, hcontains, if_true]

/-- Where it is loaded, a name that is written like a listed one has the key it is written with. -/
theorem key_of_load_listed (hcolon : BundleKey.nameSeparator ∉ r.toList) {alternate : UInt64}
    {key : BundleKey} (h : (c.load (listed r b) alternate).1 = .ok key) :
    key = ⟨r, b, alternate⟩ := by
  have hload : c.load (listed r b) alternate = (.ok key, (c.load (listed r b) alternate).2) :=
    Prod.ext h rfl
  have hmem : BundleKey.nameSeparator ∈ (listed r b).toList := by
    rw [toList_listed]
    exact List.mem_append_right _ List.mem_cons_self
  have hsplit := load_named hmem hload
  obtain ⟨-, -, -, halternate, -⟩ := load_ok hload
  rw [splitFirst_listed hcolon, Option.some.injEq, Prod.mk.injEq] at hsplit
  rw [String.toList_inj.1 hsplit.1, String.toList_inj.1 hsplit.2, ← halternate]

/-- A name that is written with a repository that is not bound is refused. -/
theorem load_listed_unknown (hcolon : BundleKey.nameSeparator ∉ r.toList)
    (hr : r ∉ c.repositoryNames) (alternate : UInt64) :
    (c.load (listed r b) alternate).1 = .error (.unknownRepository r) := by
  have hnone : c.repositories.find? (fun s => s.1 == r) = none := by
    refine List.find?_eq_none.2 fun s hs hname => hr ?_
    exact List.mem_map.2 ⟨s, hs, eq_of_beq hname⟩
  have hfor : c.repositoryFor (listed r b) = .error (.unknownRepository r) := by
    simp only [repositoryFor, splitName_listed hcolon, hnone]
  rw [load, hfor]

/-- What the listed name of a set stands for. -/
structure Listed (c : Composer RuleStore) (r b : String) (store : RuleStore) (alternate : UInt64) :
    Prop where
  /-- The name is on the list. -/
  offered : listed r b ∈ c.offers
  /-- It is answered with the key of the set, unless that has to be built and cannot be. -/
  answered : BundleKey.nameSeparator ∉ r.toList → (c.load (listed r b) alternate).1 =
    if ⟨r, b, alternate⟩ ∈ c.loadedKeys then .ok ⟨r, b, alternate⟩
    else (buildEntry c.flatten store ⟨r, b, alternate⟩).map fun _ => ⟨r, b, alternate⟩
  /-- So it is answered with no other key. -/
  keyed {key} : BundleKey.nameSeparator ∉ r.toList →
    (c.load (listed r b) alternate).1 = .ok key → key = ⟨r, b, alternate⟩
  /-- Only a missing include or a rule can stand against it, neither the repository nor the name. -/
  refused {e} : BundleKey.nameSeparator ∉ r.toList →
    (c.load (listed r b) alternate).1 = .error e →
      (∃ owner missing, e = .repository (.missingInclude owner missing)) ∨
        ∃ problem, e = .rule problem
  /-- No other set of such a repository is listed by the same name. -/
  unique {r' b'} : BundleKey.nameSeparator ∉ r.toList → BundleKey.nameSeparator ∉ r'.toList →
    listed r' b' = listed r b → r' = r ∧ b' = b
  /-- A repository with a colon in its name is taken for the one before the colon: the name is refused
  if that is not bound, and otherwise nothing but a set of that is loaded by it. -/
  misread {front rest} : BundleKey.nameSeparator ∉ front.toList → r = listed front rest →
    (front ∉ c.repositoryNames →
      (c.load (listed r b) alternate).1 = .error (.unknownRepository front)) ∧
    ∀ key, (c.load (listed r b) alternate).1 = .ok key → key = ⟨front, listed rest b, alternate⟩

/-- **A listed name is loaded as what it lists exactly if there is no colon in the repository's
name**, for every set of every repository of a composer, whatever run of operations led to it. -/
theorem load_listed (hc : Reachable c) (hr : (r, store) ∈ c.repositories) (hb : b ∈ store.names)
    (alternate : UInt64) : Listed c r b store alternate := by
  let key : BundleKey := ⟨r, b, alternate⟩
  have hanswer (hcolon : BundleKey.nameSeparator ∉ r.toList) :
      (c.load (listed r b) alternate).1 = if key ∈ c.loadedKeys then .ok key
        else (buildEntry c.flatten store key).map fun _ => key := by
    have hfor := repositoryFor_listed hc.coherent.names hr hb hcolon
    have hbundle : key.bundle = (splitName (listed r b)).2 := by rw [splitName_listed hcolon]
    exact load_of_repositoryFor hfor hbundle
  refine ⟨mem_offers_iff.2 ⟨_, hr, b, hb, rfl⟩, hanswer,
    fun hcolon => key_of_load_listed hcolon, ?_, ?_, ?_⟩
  · intro e hcolon he
    rw [hanswer hcolon] at he
    split at he
    · cases he
    · cases hbuilt : buildEntry c.flatten store key with
      | error e' =>
        rw [hbuilt] at he
        cases he
        exact buildEntry_error hb hbuilt
      | ok l =>
        rw [hbuilt] at he
        cases he
  · exact fun hcolon hcolon' hsame => listed_injective hcolon' hcolon hsame
  · rintro front rest hfront rfl
    rw [listed_assoc]
    exact ⟨fun hunbound => load_listed_unknown hfront hunbound alternate,
      fun key hkey => key_of_load_listed hfront hkey⟩

end AnyEngine

/-- A store of one set. -/
def shelf (name : String) : RuleStore := .ofList [(RuleSet.new name).addChar "x" "y"]

/-- Two sets that are listed by one name, and one that is listed by a name of a repository that is not
bound. -/
def colons : Composer RuleStore :=
  ofRepositories true [("a", shelf "b:c"), ("a:b", shelf "c"), ("x:y", shelf "c")]

/-- What is loaded of the first of them. -/
def shelfLoaded : Loaded :=
  ⟨⟨"a", "b:c", 0⟩, ⟨"b:c", .empty, .ofList [(.codePoint 120, "y")], [], []⟩, []⟩

theorem builtFrom_shelf : BuiltFrom true (shelf "b:c") shelfLoaded
    ⟨[(RuleSet.new "b:c").addChar "x" "y"], []⟩ :=
  builtFrom_of_no_includes (by decide +kernel) rfl (by decide +kernel) rfl

/-- Of the two sets with one listed name the one in the repository without a colon is loaded, and the
third is refused. -/
theorem load_listed_colons :
    (colons.load (listed "a" "b:c") 0).1 = .ok ⟨"a", "b:c", 0⟩ ∧
      (∀ key, (colons.load (listed "a:b" "c") 0).1 = .ok key → key = ⟨"a", "b:c", 0⟩) ∧
      (colons.load (listed "x:y" "c") 0).1 = .error (.unknownRepository "x") := by
  have hc : Reachable colons := .start true _
  have hbound : colons.repositories =
      [("a", shelf "b:c"), ("a:b", shelf "c"), ("x:y", shelf "c")] := rfl
  have hlong : (shelf "b:c").names = ["b:c"] := by decide +kernel
  have hshort : (shelf "c").names = ["c"] := by decide +kernel
  have ha : Listed colons "a" "b:c" (shelf "b:c") 0 :=
    load_listed hc (by simp [hbound]) (by simp [hlong]) 0
  have hab : Listed colons "a:b" "c" (shelf "c") 0 :=
    load_listed hc (by simp [hbound]) (by simp [hshort]) 0
  have hxy : Listed colons "x:y" "c" (shelf "c") 0 :=
    load_listed hc (by simp [hbound]) (by simp [hshort]) 0
  refine ⟨?_, ?_, ?_⟩
  · rw [ha.answered (by decide), if_neg (by decide +kernel)]
    exact congrArg (Except.map fun _ => _) builtFrom_shelf.buildEntry_eq
  · have hname : "a:b" = listed "a" "b" := rfl
    exact (hab.misread (by decide) hname).2
  · have hname : "x:y" = listed "x" "y" := rfl
    have hunbound : "x" ∉ colons.repositoryNames := by simp [repositoryNames, hbound]
    exact (hxy.misread (by decide) hname).1 hunbound

/-- Two sets can be listed by one name, which is loaded as the same one of them for both, and a set
can be listed by a name that is refused because its repository is not bound. -/
theorem listed_elsewhere : Reachable colons ∧ colons.repositoryNames = ["a", "a:b", "x:y"] ∧
    colons.offers = ["a:b:c", "a:b:c", "x:y:c"] ∧
    (colons.load "a:b:c" 0).1 = .ok ⟨"a", "b:c", 0⟩ ∧
    (colons.load "x:y:c" 0).1 = .error (.unknownRepository "x") := by
  refine ⟨.start true _, rfl, by decide +kernel, ?_, by decide +kernel⟩
  exact congrArg Prod.fst (builtFrom_shelf.load_eq (c := colons) (q := "a:b:c")
    (by decide +kernel) (by decide +kernel) (by decide +kernel))

end Composer

end Lettering
