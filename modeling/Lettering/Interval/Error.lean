import Lettering.CodePoint

/-!
# Errors about intervals

Two kinds: a key that has no answer, and parts that do not make intervals. Each error names the
numbers it is about; `message` is its wording.
-/

namespace Lettering

/-- Why a key has no answer. -/
inductive LookupError where
  | outOfRange (key : Nat)
  | invalidResult (key : Nat) (result : Int)
  | notACharacter (key codePoint : Nat)
  | belowFirst (key : Nat)
  | aboveLast (key : Nat)
  | gap (key : Nat)
  deriving DecidableEq, Repr

/-- The wording of a lookup error; keys are shown in hexadecimal. -/
def LookupError.message : LookupError → String
  | outOfRange key => "key " ++ CodePoint.hex key ++ " is outside the lookup range"
  | invalidResult key result =>
    "key " ++ CodePoint.hex key ++ " resolves to negative code point " ++ toString result
  | notACharacter key codePoint =>
    "key " ++ CodePoint.hex key ++ " resolves to " ++ CodePoint.hex codePoint ++
      ", which is not a character"
  | belowFirst key => "key " ++ CodePoint.hex key ++ " is smaller than the smallest bound"
  | aboveLast key => "key " ++ CodePoint.hex key ++ " is larger than the largest bound"
  | gap key => "key " ++ CodePoint.hex key ++ " falls in a gap between ranges"

/-- Why parts do not fit together, or a change is refused. -/
inductive BuildError where
  | negativeStart (start : Nat) (offset : Int)
  | startAfterEnd (start finish : Nat)
  | oddBounds (count : Nat)
  | valueCount (ranges values : Nat)
  | notIncreasing (index : Nat)
  | overlap (index : Nat)
  | insideRange (index : Nat)
  | zeroLength (index : Nat)
  | shiftOverflow (bound : Nat) (offset : Int)
  | removalUnsupported
  deriving DecidableEq, Repr

/-- The wording of a build error. -/
def BuildError.message : BuildError → String
  | negativeStart start offset =>
    "start " ++ toString start ++ " and offset " ++ toString offset ++
      " would produce a negative code point"
  | startAfterEnd start finish =>
    "start " ++ toString start ++ " comes after end " ++ toString finish
  | oddBounds count =>
    "bounds list must have an even number of bounds, got " ++ toString count
  | valueCount ranges values =>
    "expected one value or one value per range (" ++ toString ranges ++ "), got " ++
      toString values
  | notIncreasing index =>
    "bounds[" ++ toString index ++ "] must be larger than the bound before it"
  | overlap index =>
    "range " ++ toString index ++ ": new ranges must not overlap existing ranges"
  | insideRange index =>
    "range " ++ toString index ++ ": cannot create a range within or touching another"
  | zeroLength index =>
    "range " ++ toString index ++ ": ranges must have a length of one or more"
  | shiftOverflow bound offset =>
    "bound " ++ toString bound ++ " shifted by " ++ toString offset ++
      " does not fit a code point"
  | removalUnsupported => "range removal is not supported"

end Lettering
