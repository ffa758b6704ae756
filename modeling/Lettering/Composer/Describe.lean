import Lettering.Composer.Basic
import Lettering.Text.Quoted

/-!
# Describing composers

A composer on one line: the bound names, the keys of the loaded bundles, the operations list and
the flag, each behind its name. Texts are quoted.
-/

namespace Lettering

/-- A list of fields in braces behind the name of what has them. -/
def describeFields (name : String) (fields : List (String × String)) : String :=
  name ++ " \x7b " ++ ", ".intercalate (fields.map fun f => f.1 ++ ": " ++ f.2) ++ " \x7d"

/-- A key with its parts by name. -/
def BundleKey.describe (k : BundleKey) : String :=
  describeFields "BundleKey" [("repository", Text.quote k.repository),
    ("bundle", Text.quote k.bundle), ("alternate", toString k.alternate.toNat)]

/-- A composer with its parts by name. -/
def Composer.describe [Regex.Engine] {ρ : Type} (c : Composer ρ) : String :=
  describeFields "Composer" [
    ("repositories", Text.bracketed (c.repositoryNames.map Text.quote)),
    ("loaded", Text.bracketed (c.loadedKeys.map BundleKey.describe)),
    ("ops", Text.bracketed (c.ops.map BundleKey.describe)),
    ("flatten", toString c.flatten)]

end Lettering
