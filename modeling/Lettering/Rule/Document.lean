import Lettering.Json.Read
import Lettering.Rule.Problem
import Lettering.Rule.RuleSet

/-!
# Rule sets as documents

A rule set written in JSON: an object with metadata under `meta`, rules under `trans` and the
names of included sets under `trans-include`, or an array of these in this order. All may be left
out.

* What is wrong with the text or with the shape of the document is one kind of error; only when
  both are right are the entries looked at, in order, and the first that is no rule is reported.
* A key that occurs twice among the rules keeps its first place and its last value.
* Rules may not be nested too deeply, counting the containers around them; unknown members are
  skipped and may hold anything.
-/

namespace Lettering.RuleSet

/-- The number of containers that may be open at once. -/
def maxOpen : Nat := 127

/-- The names of the members, in the order of the array form. -/
def memberNames : List String := ["meta", "trans", "trans-include"]

/-- The entries under `trans`, inside one container. -/
def entries? (j : Json) : Option (List (String × Json)) :=
  match j with
  | .obj members =>
    if j.isReadable && j.depth < maxOpen then some (Json.distinct members) else none
  | _ => none

/-- The parts of a document: metadata, entries not yet looked at, and includes. -/
structure Parts where
  metadata : Metadata
  entries : List (String × Json)
  includes : List String

/-- The parts of a document, if it has the right shape. -/
def parts? (document : Json) : Option Parts := do
  let field ← Metadata.fields? memberNames document
  return {
    metadata := ← Metadata.defaulted? Metadata.ofJson? .empty (field 0)
    entries := ← Metadata.defaulted? entries? [] (field 1)
    includes := ← Metadata.defaulted? (listOf? text?) [] (field 2) }

/-- The rules of the entries, up to the first entry that is none. -/
def rulesOf (name : String) (entries : List (String × Json)) : Except RuleError (List Rule) :=
  entries.mapM fun e =>
    match Rule.ofJson? e.1 e.2 with
    | some r => .ok r
    | none => .error (.entry name e.1)

/-- The rule set of a name and a JSON text. -/
def ofJson (name text : String) : Except RuleError RuleSet :=
  match (Json.read? text).bind parts? with
  | none => .error (.json name)
  | some p => do return ⟨name, p.metadata, ← rulesOf name p.entries, p.includes⟩

end Lettering.RuleSet
