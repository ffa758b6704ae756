import Lettering.Bundle.Chain
import Lettering.Bundle.Draft
import Lettering.Repository.Basic
import Lettering.Composer.BundleKey

/-!
# Composers

A composer binds repositories under names, keeps the bundles that were loaded out of them, and
holds the list of the bundles that a text is run through.

* Names, loaded keys and the repositories they come from stay in step: binding a name again drops
  everything loaded under it, and whatever is dropped leaves the operations list too.
* An operation gives its result together with the composer after it. One that fails gives back the
  composer it was asked.
* A bundle may be referred to by its place in the load order, by its key, by the written form of its
  key, or by its bare name, which means the first one loaded under that name.
-/

namespace Lettering

/-! ## 1. Parts -/

/-- Why a composer cannot do what it is asked. -/
inductive ComposerError where
  | notFound (bundle : String)
  | unknownRepository (repository : String)
  | notLoaded (key : String)
  | notInOrder (key : String)
  | indexOutOfRange (index size : Nat)
  | emptyOrder
  | repository (source : RepositoryError)
  | rule (source : RuleError)
  | stage (source : StageError)
  deriving DecidableEq, Repr

/-- The wording of a composer error. -/
def ComposerError.message : ComposerError → String
  | notFound bundle => "translation `" ++ bundle ++ "` not found in any bound repository"
  | unknownRepository name => "repository `" ++ name ++ "` is not bound"
  | notLoaded key => "bundle `" ++ key ++ "` is not loaded"
  | notInOrder key => "bundle `" ++ key ++ "` is not in the operations list"
  | indexOutOfRange index size =>
    "index " ++ toString index ++ " out of range for " ++ toString size ++ " entries"
  | emptyOrder => "operations list is empty"
  | repository source => source.message
  | rule source => source.message
  | stage source => source.message

/-- A reference to a loaded bundle, or to a place in the operations list. -/
inductive Reference where
  | index (i : Nat)
  | name (name : String)
  | key (key : BundleKey)
  deriving DecidableEq, Repr

variable [Regex.Engine]

/-- A loaded bundle with all warnings from loading it: those about includes come first. -/
structure Loaded where
  key : BundleKey
  bundle : Bundle
  warnings : List RuleWarning
  deriving DecidableEq

/-- Repositories by name in the order of binding, loaded bundles in the order of loading, the
operations list, and whether shifts are written out when a bundle is built. -/
structure Composer (ρ : Type) where
  repositories : List (String × ρ)
  loaded : List Loaded
  ops : List BundleKey
  flatten : Bool

/-- What an operation gives: its result, and the composer after it. -/
abbrev Outcome (ρ α : Type) := Except ComposerError α × Composer ρ

namespace Composer

variable {ρ : Type}

/-- The composer without repositories. -/
def empty (flatten : Bool) : Composer ρ := ⟨[], [], [], flatten⟩

/-! ## 2. Repositories -/

/-- Binds a repository under a name. A name that is bound already keeps its place and loses
everything that was loaded under it. -/
def bind (c : Composer ρ) (name : String) (repository : ρ) : Composer ρ :=
  if c.repositories.any fun r => r.1 == name then
    { c with
      repositories := c.repositories.map fun r => if r.1 == name then (name, repository) else r
      loaded := c.loaded.filter fun l => l.key.repository != name
      ops := c.ops.filter fun k => k.repository != name }
  else { c with repositories := c.repositories ++ [(name, repository)] }

/-- The composer with the given repositories bound in order. -/
def ofRepositories (flatten : Bool) (repositories : List (String × ρ)) : Composer ρ :=
  repositories.foldl (fun c r => c.bind r.1 r.2) (empty flatten)

/-- The bound names in order. -/
def repositoryNames (c : Composer ρ) : List String := c.repositories.map (·.1)

/-- Every rule set on offer, written `repository:name`. -/
def offers [Repository ρ] (c : Composer ρ) : List String :=
  c.repositories.flatMap fun r =>
    (Repository.names r.2).map fun name =>
      r.1 ++ String.singleton BundleKey.nameSeparator ++ name

/-- A name as it is asked for: the repository before the first colon, if there is a colon, and the
name of the rule set. -/
def splitName (name : String) : Option String × String :=
  match Text.splitFirst BundleKey.nameSeparator name.toList with
  | some (repository, bundle) => (some (String.ofList repository), String.ofList bundle)
  | none => (none, name)

/-- The repository that a name is to be loaded from. A bare name is looked for in the order of
binding. -/
def repositoryFor [Repository ρ] (c : Composer ρ) (name : String) :
    Except ComposerError (String × ρ) :=
  match splitName name with
  | (some repository, bundle) =>
    match c.repositories.find? fun r => r.1 == repository with
    | none => .error (.unknownRepository repository)
    | some r => if Repository.contains r.2 bundle then .ok r else .error (.notFound name)
  | (none, bundle) =>
    match c.repositories.find? fun r => Repository.contains r.2 bundle with
    | none => .error (.notFound name)
    | some r => .ok r

/-! ## 3. Loading -/

/-- The loaded entry of a key. -/
def entry? (c : Composer ρ) (key : BundleKey) : Option Loaded :=
  c.loaded.find? fun l => l.key = key

/-- The keys of loaded bundles in order. -/
def loadedKeys (c : Composer ρ) : List BundleKey := c.loaded.map (·.key)

/-- Builds what is to be loaded under a key from a repository. -/
def buildEntry [Repository ρ] (flatten : Bool) (repository : ρ) (key : BundleKey) :
    Except ComposerError Loaded :=
  match Repository.resolve repository key.bundle with
  | .error e => .error (.repository e)
  | .ok resolution =>
    match Bundle.build key.bundle resolution.layers ⟨key.alternate.toNat, flatten⟩ with
    | .error e => .error (.rule e)
    | .ok bundle => .ok ⟨key, bundle, resolution.warnings ++ bundle.warnings⟩

/-- Loads a name with an alternative. What is loaded already under the same key is not loaded
again. -/
def load [Repository ρ] (c : Composer ρ) (name : String) (alternate : UInt64) :
    Outcome ρ BundleKey :=
  match c.repositoryFor name with
  | .error e => (.error e, c)
  | .ok (repositoryName, repository) =>
    let key : BundleKey := ⟨repositoryName, (splitName name).2, alternate⟩
    if (c.entry? key).isSome then (.ok key, c)
    else match buildEntry c.flatten repository key with
      | .error e => (.error e, c)
      | .ok entry => (.ok key, { c with loaded := c.loaded ++ [entry] })

/-- The key of the loaded bundle that a key names. -/
def loadedKey (c : Composer ρ) (key : BundleKey) : Except ComposerError BundleKey :=
  match c.entry? key with
  | some l => .ok l.key
  | none => .error (.notLoaded key.display)

/-- The key of the loaded bundle that a reference means. -/
def keyOf (c : Composer ρ) : Reference → Except ComposerError BundleKey
  | .index i =>
    match c.loaded[i]? with
    | some l => .ok l.key
    | none => .error (.indexOutOfRange i c.loaded.length)
  | .key key => c.loadedKey key
  | .name name =>
    match BundleKey.ofString? name with
    | some key => c.loadedKey key
    | none =>
      match c.loaded.find? fun l => l.key.bundle == name with
      | some l => .ok l.key
      | none => .error (.notLoaded name)

/-- The loaded bundle of a key. -/
def bundle? (c : Composer ρ) (key : BundleKey) : Option Bundle := (c.entry? key).map (·.bundle)

/-- The metadata of a loaded bundle. -/
def metadata? (c : Composer ρ) (key : BundleKey) : Option Metadata :=
  (c.bundle? key).map (·.metadata)

/-- The warnings from loading a bundle; none if it is not loaded. -/
def warnings (c : Composer ρ) (key : BundleKey) : List RuleWarning :=
  ((c.entry? key).map (·.warnings)).getD []

/-! ## 4. The operations list -/

/-- Replaces the operations list, if every reference means a loaded bundle. -/
def setOrder (c : Composer ρ) (refs : List Reference) : Outcome ρ Unit :=
  match refs.mapM c.keyOf with
  | .error e => (.error e, c)
  | .ok keys => (.ok (), { c with ops := keys })

/-- Puts a loaded bundle into the operations list, at a position or at the end. -/
def push (c : Composer ρ) (ref : Reference) (position : Option Nat) : Outcome ρ Unit :=
  match c.keyOf ref with
  | .error e => (.error e, c)
  | .ok key =>
    match position with
    | none => (.ok (), { c with ops := c.ops ++ [key] })
    | some i =>
      if c.ops.length < i then (.error (.indexOutOfRange i c.ops.length), c)
      else (.ok (), { c with ops := c.ops.insertIdx i key })

/-- The place in the operations list that a reference means: an index itself, and otherwise the
first place of the bundle. -/
def placeOf (c : Composer ρ) : Reference → Except ComposerError Nat
  | .index i =>
    if i < c.ops.length then .ok i else .error (.indexOutOfRange i c.ops.length)
  | ref =>
    match c.keyOf ref with
    | .error e => .error e
    | .ok key =>
      match c.ops.findIdx? fun k => k = key with
      | some i => .ok i
      | none => .error (.notInOrder key.display)

/-- Takes an entry out of the operations list. -/
def pop (c : Composer ρ) (ref : Reference) : Outcome ρ BundleKey :=
  if c.ops.isEmpty then (.error .emptyOrder, c)
  else match c.placeOf ref with
    | .error e => (.error e, c)
    | .ok i =>
      match c.ops[i]? with
      | some key => (.ok key, { c with ops := c.ops.eraseIdx i })
      | none => (.error (.indexOutOfRange i c.ops.length), c)

/-! ## 5. Forgetting -/

/-- Drops a bundle everywhere; the answer says whether it was loaded. -/
def forget (c : Composer ρ) (key : BundleKey) : Bool × Composer ρ :=
  (c.loaded.any fun l => l.key = key,
    { c with
      loaded := c.loaded.filter fun l => l.key ≠ key
      ops := c.ops.filter fun k => k ≠ key })

/-- Drops every loaded bundle. -/
def clear (c : Composer ρ) : Composer ρ := { c with loaded := [], ops := [] }

/-! ## 6. Running texts -/

/-- The loaded bundle of a key, which has to be there. -/
def stage (c : Composer ρ) (key : BundleKey) : Except ComposerError Bundle :=
  match c.bundle? key with
  | some b => .ok b
  | none => .error (.notLoaded key.display)

/-- The bundles of a list of keys in a row. -/
def chain (c : Composer ρ) (keys : List BundleKey) : Except ComposerError Chain :=
  (keys.mapM c.stage).map Chain.mk

/-- A text run through the bundles of a list of keys. -/
def runKeys (c : Composer ρ) (keys : List BundleKey) (text : String) :
    Except ComposerError String :=
  match c.chain keys with
  | .error e => .error e
  | .ok p =>
    match p.run text with
    | .ok out => .ok out
    | .error e => .error (.stage e)

/-- A text run through the operations list. -/
def run (c : Composer ρ) (text : String) : Except ComposerError String :=
  c.runKeys c.ops text

/-- A text run through the given bundles; without any, through the operations list. -/
def runWith (c : Composer ρ) (text : String) (refs : List Reference) :
    Except ComposerError String :=
  match refs with
  | [] => c.run text
  | refs =>
    match refs.mapM c.keyOf with
    | .error e => .error e
    | .ok keys => c.runKeys keys text

end Composer

end Lettering
