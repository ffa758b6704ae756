import Lettering.Interval.Error
import Lettering.Text.Quoted

/-!
# Errors and warnings about rules

An error stops the loading of rules; a warning names an entry that was left out while loading went
on. Both name the rule set, and `message` is their wording.
-/

namespace Lettering

/-- Why rules cannot be loaded. -/
inductive RuleError where
  | json (bundle : String)
  | entry (bundle key : String)
  | build (bundle key : String) (source : BuildError)
  | pattern (bundle key : String)
  | lookup (bundle : String) (source : LookupError)
  deriving DecidableEq, Repr

/-- The wording of a rule error, up to the details of what is wrong inside a text. -/
def RuleError.message : RuleError → String
  | json bundle => "rule set `" ++ bundle ++ "` is not valid: "
  | entry bundle key => bundle ++ ": entry " ++ Text.quote key ++ " is malformed: "
  | build bundle key source =>
    bundle ++ ": entry " ++ Text.quote key ++ ": " ++ source.message
  | pattern bundle key => bundle ++ ": entry " ++ Text.quote key ++ ": invalid pattern: "
  | lookup bundle source => bundle ++ ": " ++ source.message

/-- What was left out while loading. -/
inductive RuleWarning where
  | swappedDefault (bundle : String)
  | swappedDeletion (bundle key : String)
  | swappedRange (bundle name : String)
  | swappedPattern (bundle name : String)
  | olderSpelling (bundle : String)
  | longKey (bundle key : String)
  | noAlternatives (bundle key : String)
  | selfInclude (bundle : String)
  | includeLoop (source target : String)
  deriving DecidableEq, Repr

/-- The wording of a warning. -/
def RuleWarning.message : RuleWarning → String
  | swappedDefault bundle => bundle ++ ": default translations cannot be reversed, skipped"
  | swappedDeletion bundle key =>
    bundle ++ ": deletion of " ++ Text.quote key ++ " cannot be reversed, skipped"
  | swappedRange bundle name =>
    bundle ++ ": reverse range translations unsupported, `" ++ name ++ "` skipped"
  | swappedPattern bundle name =>
    bundle ++ ": reverse regex translations unsupported, `" ++ name ++ "` skipped"
  | olderSpelling bundle =>
    bundle ++ ": use reverse-trans to specify reverse translations"
  | longKey bundle key =>
    bundle ++ ": multi-char key " ++ Text.quote key ++
      " cannot be matched per character, dropped"
  | noAlternatives bundle key =>
    bundle ++ ": entry " ++ Text.quote key ++ " lists no alternatives, skipped"
  | selfInclude bundle => "trans-include: " ++ bundle ++ ": cannot include self"
  | includeLoop source target =>
    "trans-include: " ++ source ++ " to " ++ target ++ ": inclusion loop detected"

end Lettering
