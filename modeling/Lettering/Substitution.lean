import Lettering.Marker
import Lettering.Regex.Engine

/-!
# Substitutions

A substitution replaces every match of a pattern in a whole text. The replacement is a template; if
it holds the marker, every marker of the expanded template is filled with the whole match.

A substitution is determined by its two texts, so two are equal when these are, whatever the engine
makes of the pattern.
-/

namespace Lettering

open Marker

variable [Regex.Engine]

/-- A pattern with its replacement template. -/
structure Substitution where
  pattern : String
  template : String
  regex : Regex
  compiled : Regex.Engine.compile? pattern = some regex

namespace Substitution

instance : DecidableEq Substitution := fun a b =>
  if h : a.pattern = b.pattern ∧ a.template = b.template then
    isTrue (by
      obtain ⟨apat, atem, are, ac⟩ := a
      obtain ⟨bpat, btem, bre, bc⟩ := b
      obtain ⟨rfl, rfl⟩ := h
      have hre : are = bre := Option.some.inj (ac.symm.trans bc)
      subst hre
      rfl)
  else isFalse (by
    intro e
    subst e
    exact h ⟨rfl, rfl⟩)

/-- The substitution of a pattern and a template, or `none` if the pattern is invalid. -/
def make? (pattern template : String) : Option Substitution :=
  match h : Regex.Engine.compile? pattern with
  | some regex => some ⟨pattern, template, regex, h⟩
  | none => none

/-- Whether the pattern matches anywhere in a text. -/
def isMatch (s : Substitution) (text : String) : Bool := Regex.Engine.isMatch s.regex text

/-- What a match is replaced by. -/
def replacement (s : Substitution) (text : Array Char) (m : Regex.Match) : String :=
  let expanded := s.regex.expand text m s.template
  if occursIn s.template then
    fill expanded (String.ofList (Regex.slice text (m.start, m.finish)))
  else expanded

/-- The text with every match replaced. -/
def apply (s : Substitution) (text : String) : String := s.regex.replaceAll text s.replacement

end Substitution

end Lettering
