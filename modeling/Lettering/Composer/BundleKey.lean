import Lettering.Text.Decimal
import Lettering.Text.Split

/-!
# Bundle keys

The identity of a loaded bundle: the repository it came from, its name there, and the number of
the alternative it was loaded with. A key is written `repository:bundle.alternate`.

Reading takes the first colon and the last dot. Where no number of 64 bits follows the last dot,
the dot belongs to the name and the alternative is 0; so a name may hold both separators and still
be written without loss.
-/

namespace Lettering

/-- The identity of a loaded bundle. -/
structure BundleKey where
  repository : String
  bundle : String
  alternate : UInt64
  deriving DecidableEq, Repr

namespace BundleKey

/-- The character between repository and name. -/
def nameSeparator : Char := ':'

/-- The character between name and alternative. -/
def alternateSeparator : Char := '.'

/-- The written form. -/
def display (k : BundleKey) : String :=
  k.repository ++ String.singleton nameSeparator ++ k.bundle ++
    String.singleton alternateSeparator ++ toString k.alternate.toNat

/-- The name and alternative behind the first colon. -/
def readName (cs : List Char) : String × UInt64 :=
  match Text.splitLast alternateSeparator cs with
  | some (name, number) =>
    match Text.readIndex number with
    | some n => (String.ofList name, UInt64.ofNat n)
    | none => (String.ofList cs, 0)
  | none => (String.ofList cs, 0)

/-- The key of a written form; `none` if there is no colon. -/
def ofString? (s : String) : Option BundleKey :=
  (Text.splitFirst nameSeparator s.toList).map fun (repository, rest) =>
    let (bundle, alternate) := readName rest
    ⟨String.ofList repository, bundle, alternate⟩

/-- Keys are ordered by repository, then by name, then by alternative. -/
instance : Ord BundleKey where
  compare a b :=
    (compare a.repository b.repository).then
      ((compare a.bundle b.bundle).then (compare a.alternate b.alternate))

end BundleKey

end Lettering
