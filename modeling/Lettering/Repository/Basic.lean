import Lettering.Rule.Document

/-!
# Repositories

A repository gives out rule sets by name. Asked for one, it answers with the layers that the set
and its includes make up, least important first, and with what it had to leave out on the way.
-/

namespace Lettering

/-- Why a repository cannot give out a rule set. -/
inductive RepositoryError where
  | notFound (bundle : String)
  | missingInclude (bundle missing : String)
  | rule (source : RuleError)
  deriving DecidableEq, Repr

/-- The wording of a repository error. -/
def RepositoryError.message : RepositoryError → String
  | notFound bundle => "rule set `" ++ bundle ++ "` not found"
  | missingInclude bundle missing =>
    "rule set `" ++ bundle ++ "` includes `" ++ missing ++ "`, which does not exist"
  | rule source => source.message

/-- A rule set with everything it includes, lowest precedence first, so that the set itself is the
last layer. -/
structure Resolution where
  layers : List RuleSet
  warnings : List RuleWarning
  deriving DecidableEq

/-- Sources of rule sets. -/
class Repository (ρ : Type) where
  names : ρ → List String
  contains : ρ → String → Bool := fun r name => (names r).contains name
  resolve : ρ → String → Except RepositoryError Resolution

end Lettering
