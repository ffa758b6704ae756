import Std.Data.ExtTreeMap
import Lettering.Rule.Spec

/-!
# Metadata of rule sets

How a rule set is to be loaded and applied, with a version and descriptions by language. In JSON
it is an object whose members may all be left out, or an array of the same values in a fixed
order. `null` is the same as leaving out a member that has no value of its own by default, and is
refused elsewhere; no known member may be repeated, and unknown members are ignored.
-/

namespace Lettering

/-- The metadata of a rule set. `reverse` is an older spelling of `reverseTrans`. -/
structure Metadata where
  reverseTrans : Option Bool
  reverse : Option Bool
  reverseOut : Bool
  version : Option String
  desc : Std.ExtTreeMap String String
  deriving DecidableEq

namespace Metadata

/-- No metadata. -/
def empty : Metadata := ⟨none, none, false, none, ∅⟩

instance : Inhabited Metadata := ⟨empty⟩

/-- Whether keys and values of entries change places when the set is loaded. -/
def swapsEntries (m : Metadata) : Bool := (m.reverseTrans.or m.reverse).getD false

/-- Whether the older spelling asks for this. -/
def usesOlderSpelling (m : Metadata) : Bool := m.reverse == some true

/-! ## 1. JSON form -/

/-- A truth value. -/
def bool? (j : Json) : Option Bool :=
  match j with
  | .bool b => some b
  | _ => none

/-- Descriptions by language; a repeated language takes the last text. -/
def descriptions? (j : Json) : Option (Std.ExtTreeMap String String) :=
  match j with
  | .obj members => do
    let pairs ← members.mapM fun m => (text? m.2).map (m.1, ·)
    return pairs.foldl (fun acc p => acc.insert p.1 p.2) ∅
  | _ => none

/-- A value that may be missing or `null`. -/
def optional? (f : Json → Option α) (j : Option Json) : Option (Option α) :=
  match j with
  | none => some none
  | some .null => some none
  | some j => (f j).map some

/-- A value that has a default when it is missing. -/
def defaulted? (f : Json → Option α) (fallback : α) (j : Option Json) : Option α :=
  match j with
  | none => some fallback
  | some j => f j

/-- The names of the members, in the order of the array form. -/
def memberNames : List String := ["reverse-trans", "reverse", "reverse-out", "version", "desc"]

/-- Metadata from its members, each found by its position among the names. -/
def ofFields? (field : Nat → Option Json) : Option Metadata := do
  return {
    reverseTrans := ← optional? bool? (field 0)
    reverse := ← optional? bool? (field 1)
    reverseOut := ← defaulted? bool? false (field 2)
    version := ← optional? text? (field 3)
    desc := ← defaulted? descriptions? ∅ (field 4) }

/-- Finds the members of an object by name and the items of an array by position. -/
def fields? (names : List String) (j : Json) : Option (Nat → Option Json) :=
  match j with
  | .obj members =>
    if names.any (Json.repeats members) then none
    else some fun i => names[i]?.bind (Json.member? members)
  | .arr items => if names.length < items.length then none else some fun i => items[i]?
  | _ => none

/-- Writes the members that have a value. -/
def toJson (m : Metadata) : Json :=
  .obj ((m.reverseTrans.toList.map fun b => ("reverse-trans", Json.bool b)) ++
    (m.reverse.toList.map fun b => ("reverse", Json.bool b)) ++
    [("reverse-out", Json.bool m.reverseOut)] ++
    (m.version.toList.map fun v => ("version", Json.str v)) ++
    (if m.desc.isEmpty then []
      else [("desc", Json.obj (m.desc.toList.map fun e => (e.1, Json.str e.2)))]))

/-- Reads metadata. -/
def ofJson? (j : Json) : Option Metadata := do ofFields? (← fields? memberNames j)

end Metadata

end Lettering
