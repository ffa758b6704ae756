import Lettering.CodePoint

/-!
# The marker

A replacement text that holds the character U+FFFC asks for a copy of the key in its place. Every
rule fills markers through this file.

* The search runs over the UTF-8 bytes of the template: `hits` are the byte positions of the
  marker's three bytes, leftmost first and without overlap.
* `fill` copies the stretches between the hits and puts the key's bytes between them. The marker's
  first byte starts a character and never continues one, so every stretch ends between characters
  and the bytes put together are a text again.
* A key that is no character fills nothing: the template stays as it is.
-/

namespace Lettering.Marker

/-- The marker. -/
def char : Char := '\uFFFC'

/-- The marker as a text, which stands for the key itself. -/
def text : String := "\uFFFC"

/-! ## 1. Searching -/

/-- The positions of the marker's bytes in a list of bytes whose first has position `pos`. -/
def hitsFrom (pos : Nat) : List UInt8 → List Nat
  | [] => []
  | 0xEF :: 0xBF :: 0xBC :: rest => pos :: hitsFrom (pos + 3) rest
  | _ :: rest => hitsFrom (pos + 1) rest

/-- The byte positions of the markers in a text. -/
def hits (template : String) : List Nat := hitsFrom 0 template.toUTF8.data.toList

/-- Whether a text holds the marker. -/
def occursIn (template : String) : Bool := (hits template).head?.isSome

/-! ## 2. Filling -/

/-- The bytes from position `pos` on with the three bytes at each hit replaced by the key's. -/
def splice (key : List UInt8) (pos : Nat) (bytes : List UInt8) : List Nat → List UInt8
  | [] => bytes
  | hit :: rest =>
    bytes.take (hit - pos) ++ key ++ splice key (hit + 3) (bytes.drop (hit + 3 - pos)) rest

/-- The template with every marker replaced by one copy of the key. -/
def fill (template key : String) : String :=
  match hits template with
  | [] => template
  | hs =>
    let bytes := splice key.toUTF8.data.toList 0 template.toUTF8.data.toList hs
    (String.fromUTF8? ⟨bytes.toArray⟩).getD template

/-- The template filled with the character at a code point. -/
def fillChar (template : String) (key : Nat) : String :=
  match CodePoint.toChar? key with
  | some c => fill template (String.singleton c)
  | none => template

/-! ## 3. Values that can take a key -/

/-- Values that may hold markers: `filled?` is the value with a key in it, or `none` when there is
nothing to fill and the value is used as it is. -/
class Fillable (α : Type) where
  filled? : α → Nat → Option α

/-- A text with a marker takes the key, if the key is a character. -/
def filledText? (template : String) (key : Nat) : Option String :=
  if (CodePoint.toChar? key).isSome && occursIn template then some (fillChar template key)
  else none

instance : Fillable String where
  filled? := filledText?

instance : Fillable (Option String) where
  filled? value key := (value.bind (filledText? · key)).map some

instance : Fillable Bool where
  filled? _ _ := none

end Lettering.Marker
