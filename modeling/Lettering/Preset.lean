import Lettering.Regex.Machine
import Lettering.Repository.RuleStore

/-!
# Presets

Ready-made rule sets: fullwidth forms and back, circled and boxed letters, strikethrough, and text
turned upside down. Whoever runs them gets the machine for regular expressions with them.
-/

namespace Lettering.Preset

/-- The distance from printable ASCII to its fullwidth forms. -/
def fullwidth : OffsetSpec := ⟨0x21, 0x7E, 0xFF01 - 0x21⟩

/-- Fullwidth forms of printable ASCII. -/
def wide : RuleSet :=
  RuleSet.new "wide"
    |>.describe "en" "Fullwidth forms"
    |>.addOffset "fullwidth" fullwidth
    |>.addChar " " "\u3000"

/-- Back from fullwidth forms to ASCII. -/
def unwide : RuleSet :=
  RuleSet.new "unwide"
    |>.describe "en" "Fullwidth forms to ASCII"
    |>.swapping true
    |>.addOffset "fullwidth" fullwidth
    |>.addChar " " "\u3000"

/-- Circled letters and digits. -/
def circled : RuleSet :=
  RuleSet.new "circled"
    |>.describe "en" "Circled letters and digits"
    |>.addOffset "upper" ⟨0x41, 0x5A, 0x24B6 - 0x41⟩
    |>.addOffset "lower" ⟨0x61, 0x7A, 0x24D0 - 0x61⟩
    |>.addOffset "digits" ⟨0x31, 0x39, 0x2460 - 0x31⟩
    |>.addChar "0" "\u24EA"

/-- Strikethrough on every character but spaces. -/
def strike : RuleSet :=
  RuleSet.new "strike"
    |>.describe "en" "Strikethrough"
    |>.addFallback "\uFFFC\u0336"
    |>.addChar " " " "

/-- Letters in combining enclosing squares. -/
def boxed : RuleSet :=
  RuleSet.new "boxed"
    |>.describe "en" "Boxed letters"
    |>.addRange "letters" ⟨[0x41, 0x5A, 0x61, 0x7A], ["\uFFFC\u20DE"]⟩

/-- Characters and what they look like upside down. -/
def upsideDown : List (String × String) := [
  ("a", "\u0250"), ("b", "q"), ("c", "\u0254"), ("d", "p"), ("e", "\u01DD"), ("f", "\u025F"),
  ("g", "\u0183"), ("h", "\u0265"), ("i", "\u1D09"), ("j", "\u027E"), ("k", "\u029E"),
  ("l", "l"), ("m", "\u026F"), ("n", "u"), ("o", "o"), ("p", "d"), ("q", "b"), ("r", "\u0279"),
  ("s", "s"), ("t", "\u0287"), ("u", "n"), ("v", "\u028C"), ("w", "\u028D"), ("x", "x"),
  ("y", "\u028E"), ("z", "z"), (".", "\u02D9"), (",", "'"), ("'", ","), ("?", "\u00BF"),
  ("!", "\u00A1"), ("_", "\u203E")]

/-- Text upside down: characters turned around, and read from the end. -/
def flip : RuleSet :=
  upsideDown.foldl (fun set e => set.addChar e.1 e.2)
    (RuleSet.new "flip" |>.describe "en" "Upside down" |>.backwards true)

/-- Every preset. -/
def all : List RuleSet := [wide, unwide, circled, strike, boxed, flip]

/-- The presets as a repository. -/
def repository : RuleStore := .ofList all

end Lettering.Preset
