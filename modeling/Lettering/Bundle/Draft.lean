import Lettering.Bundle.Basic
import Lettering.Rule.RuleSet

/-!
# Drafts of bundles

Layers of rule sets become a bundle, the least important layer first. Character rules write into
the head, where a later write replaces an earlier one; every other rule adds to the tail.

* A rule that lists no alternatives is left out with a warning. So are, in a layer whose entries
  are swapped, the default, empty replacements, ranges and patterns.
* Swapped, each alternative of a character rule is mapped back onto the key.
* Flattening then writes the shifts before the first interval map into the head, and drops entries
  whose key has more than one character. A shift behind an interval map stays where it is, because
  the tail outranks the head.
-/

namespace Lettering

/-- Which alternative is taken, and whether shifts are written out. -/
structure BuildOptions where
  alternate : Nat := 0
  flatten : Bool := true
  deriving DecidableEq, Repr

variable [Regex.Engine]

/-- A bundle in the making. `origins` holds, for each key of several characters, the rule set that
wrote it last. -/
structure Draft where
  head : Dictionary
  tail : List TailRule
  warnings : List RuleWarning
  origins : Std.ExtTreeMap String String

namespace Draft

/-- Nothing yet. -/
def empty : Draft := ⟨.empty, [], [], ∅⟩

/-- Adds a warning. -/
def warn (d : Draft) (w : RuleWarning) : Draft := { d with warnings := d.warnings ++ [w] }

/-- Adds a rule to the tail. -/
def push (d : Draft) (l : TailRule) : Draft := { d with tail := d.tail ++ [l] }

/-- Writes an entry into the head. -/
def write (d : Draft) (set key value : String) : Draft :=
  { d with
    head := d.head.insert (.ofString key) value
    origins := if 1 < key.length then d.origins.insert key set else d.origins }

/-- Writes each alternative back onto the key; an empty one would land on the default, so it is
left out. -/
def writeSwapped (d : Draft) (set key : String) (alternatives : List String) : Draft :=
  alternatives.foldl (fun d alt =>
    if alt.isEmpty then d.warn (.swappedDeletion set key) else d.write set alt key) d

/-! ## 1. One rule -/

/-- Adds a character rule. -/
def addChar (d : Draft) (set : String) (swapped : Bool) (alternate : Nat) (key : String)
    (value : Alternatives String) : Draft :=
  match value.pick alternate with
  | none => d.warn (.noAlternatives set key)
  | some picked =>
    if !swapped then d.write set key picked
    else if key.isEmpty then d.warn (.swappedDefault set)
    else d.writeSwapped set key value.all

/-- Adds an offset rule. -/
def addOffset (d : Draft) (set : String) (swapped : Bool) (alternate : Nat) (name : String)
    (spec : Alternatives OffsetSpec) : Except RuleError Draft :=
  match spec.pick alternate with
  | none => .ok (d.warn (.noAlternatives set name))
  | some s =>
    let made := if swapped then Shift.makeInverse s.start s.finish s.offset.toInt
      else Shift.make s.start s.finish s.offset.toInt
    match made with
    | .ok l => .ok (d.push (.shift l))
    | .error e => .error (.build set name e)

/-- Adds a range rule. -/
def addRange (d : Draft) (set : String) (swapped : Bool) (alternate : Nat) (name : String)
    (spec : Alternatives RangeSpec) : Except RuleError Draft :=
  if swapped then .ok (d.warn (.swappedRange set name))
  else match spec.pick alternate with
  | none => .ok (d.warn (.noAlternatives set name))
  | some s =>
    match IntervalMap.make (s.bounds.map (·.toNat)) s.values with
    | .ok t => .ok (d.push (.intervals (t.withFilling true)))
    | .error e => .error (.build set name e)

/-- Adds a pattern rule. -/
def addPattern (d : Draft) (set : String) (swapped : Bool) (alternate : Nat) (name : String)
    (spec : Alternatives PatternSpec) : Except RuleError Draft :=
  if swapped then .ok (d.warn (.swappedPattern set name))
  else match spec.pick alternate with
  | none => .ok (d.warn (.noAlternatives set name))
  | some s =>
    match Substitution.make? s.pattern s.replacement with
    | some p => .ok (d.push (.substitution p))
    | none => .error (.pattern set name)

/-- Adds a rule of a rule set. -/
def addRule (set : String) (swapped : Bool) (alternate : Nat) (d : Draft) :
    Rule → Except RuleError Draft
  | .char key value => .ok (d.addChar set swapped alternate key value)
  | .offset name spec => d.addOffset set swapped alternate name spec
  | .range name spec => d.addRange set swapped alternate name spec
  | .pattern name spec => d.addPattern set swapped alternate name spec

/-! ## 2. Layers -/

/-- Adds a rule set, its rules in order. -/
def addLayer (alternate : Nat) (d : Draft) (layer : RuleSet) : Except RuleError Draft :=
  let d := if layer.metadata.usesOlderSpelling then d.warn (.olderSpelling layer.name) else d
  layer.rules.foldlM (addRule layer.name layer.metadata.swapsEntries alternate) d

/-- Adds layers in order. -/
def addLayers (alternate : Nat) (layers : List RuleSet) : Except RuleError Draft :=
  layers.foldlM (addLayer alternate) empty

/-! ## 3. Flattening -/

/-- Writes the shifts before the first interval map into a dictionary and keeps the rest of the
tail. -/
def foldShifts (flat : Dictionary) (pastIntervals : Bool) :
    List TailRule → Except LookupError (Dictionary × List TailRule)
  | [] => .ok (flat, [])
  | .shift l :: rest =>
    if pastIntervals then do
      let (flat, kept) ← foldShifts flat pastIntervals rest
      return (flat, .shift l :: kept)
    else do foldShifts (← l.writeInto flat) pastIntervals rest
  | l :: rest => do
    let (flat, kept) ← foldShifts flat (pastIntervals || l.isIntervals) rest
    return (flat, l :: kept)

/-- A warning for each entry whose key has several characters, in the order of the keys. An entry
of unknown origin is put down to the bundle itself. -/
def longKeyWarnings (d : Draft) (name : String) : List RuleWarning :=
  d.head.named.toList.map fun e => .longKey (d.origins.getD e.1 name) e.1

/-- The draft with shifts written out and entries of several characters dropped. -/
def flatten (d : Draft) (name : String) : Except LookupError Draft := do
  let (head, tail) ← foldShifts { d.head with named := ∅ } false d.tail
  return { d with head, tail, warnings := d.warnings ++ d.longKeyWarnings name }

end Draft

/-- The bundle of a list of layers, lowest precedence first. It takes the metadata of the last
one. -/
def Bundle.build (name : String) (layers : List RuleSet) (options : BuildOptions) :
    Except RuleError Bundle := do
  let draft ← Draft.addLayers options.alternate layers
  let draft ←
    if options.flatten then
      match draft.flatten name with
      | .ok d => .ok d
      | .error e => .error (.lookup name e)
    else .ok draft
  let metadata := (layers.getLast?.map (·.metadata)).getD .empty
  return ⟨name, metadata, draft.head, draft.tail, draft.warnings⟩

end Lettering
