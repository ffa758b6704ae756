import Lettering.CodePoint
import Lettering.Json.Value

/-!
# Specifications of rules

What an entry of a rule set says: a replacement text, or the parts of an offset, range or pattern
rule; and either one of these or a list of alternatives.

Each kind has one JSON form: `toJson` writes it, and `ofJson?` reads what `toJson` writes and
accepts no other value, whatever its shape. The form of one specification never coincides with that
of a list of them, so a list is never taken for a specification nor the reverse.
-/

namespace Lettering

/-! ## 1. Kinds of specifications -/

/-- The interval of an offset rule and its distance. -/
structure OffsetSpec where
  start : UInt32
  finish : UInt32
  offset : Int64
  deriving DecidableEq

/-- The bounds and values of a range rule. -/
structure RangeSpec where
  bounds : List UInt32
  values : List String
  deriving DecidableEq

/-- The pattern of a pattern rule and its replacement. -/
structure PatternSpec where
  pattern : String
  replacement : String
  deriving DecidableEq

/-- Values with a JSON form. -/
class JsonForm (α : Type) where
  toJson : α → Json
  ofJson? : Json → Option α

/-! ## 2. JSON forms -/

/-- A 32-bit number, from a number in range. -/
def word32? (j : Json) : Option UInt32 :=
  match j with
  | .int n => if 0 ≤ n ∧ n < UInt32.size then some (UInt32.ofNat n.toNat) else none
  | _ => none

/-- A signed 64-bit number, from a number in range. -/
def int64? (j : Json) : Option Int64 :=
  match j with
  | .int n => if Int64.minValue.toInt ≤ n ∧ n ≤ Int64.maxValue.toInt then some (Int64.ofInt n) else none
  | _ => none

/-- A text. -/
def text? (j : Json) : Option String :=
  match j with
  | .str s => some s
  | _ => none

/-- A list whose items all have the form. -/
def listOf? (f : Json → Option α) (j : Json) : Option (List α) :=
  match j with
  | .arr items => items.mapM f
  | _ => none

instance : JsonForm String where
  toJson := .str
  ofJson? := text?

instance : JsonForm OffsetSpec where
  toJson s := .arr [.int s.start.toNat, .int s.finish.toNat, .int s.offset.toInt]
  ofJson?
    | .arr [start, finish, offset] => do
      return ⟨← word32? start, ← word32? finish, ← int64? offset⟩
    | _ => none

instance : JsonForm RangeSpec where
  toJson s := .arr [.arr (s.bounds.map fun b => .int b.toNat), .arr (s.values.map .str)]
  ofJson?
    | .arr [bounds, values] => do return ⟨← listOf? word32? bounds, ← listOf? text? values⟩
    | _ => none

instance : JsonForm PatternSpec where
  toJson s := .arr [.str s.pattern, .str s.replacement]
  ofJson?
    | .arr [pattern, replacement] => do return ⟨← text? pattern, ← text? replacement⟩
    | _ => none

/-! ## 3. Alternatives -/

/-- A single value, or an ordered list of alternatives. -/
inductive Alternatives (α : Type) where
  | one (value : α)
  | many (values : List α)
  deriving DecidableEq

namespace Alternatives

variable {α : Type}

/-- Every alternative in order. -/
def all : Alternatives α → List α
  | one value => [value]
  | many values => values

/-- The alternative of a number, or the first one when there are not so many; `none` only for an
empty list. -/
def pick (a : Alternatives α) (n : Nat) : Option α :=
  match a with
  | one value => some value
  | many values => values[n]?.or values.head?

/-- The number of alternatives. -/
def size (a : Alternatives α) : Nat := a.all.length

/-- Whether there is no alternative. -/
def isEmpty (a : Alternatives α) : Bool := a.all.isEmpty

instance [JsonForm α] : JsonForm (Alternatives α) where
  toJson
    | one value => JsonForm.toJson value
    | many values => .arr (values.map JsonForm.toJson)
  ofJson? j := ((JsonForm.ofJson? j).map one).or ((listOf? JsonForm.ofJson? j).map many)

end Alternatives

end Lettering
