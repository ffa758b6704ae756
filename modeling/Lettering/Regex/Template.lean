import Lettering.Text.Decimal

/-!
# Replacement templates

A template is text with references to groups: a dollar sign with the longest run of letters,
digits and underscores of ASCII behind it, or with anything in braces. A reference that is a number
means the group of that number, any other the group of that name; a reference to no group stands
for nothing. Two dollar signs stand for one, and a dollar sign that begins no reference for itself.
-/

namespace Lettering.Regex

/-- A part of a template. -/
inductive TemplatePart where
  | text (c : Char)
  | number (index : Nat)
  | name (name : String)
  deriving DecidableEq, Repr

/-- Whether a character belongs to a reference without braces. -/
def isReferenceChar (c : Char) : Bool := c.isAlphanum || c == '_'

/-- What a reference means. -/
def TemplatePart.reference (cs : List Char) : TemplatePart :=
  match Text.readIndex cs with
  | some index => number index
  | none => name (String.ofList cs)

/-- Reads one part behind a dollar sign; `none` if the dollar sign stands for itself. -/
def readReference (cs : List Char) : Option (TemplatePart × List Char) :=
  match cs with
  | '$' :: rest => some (.text '$', rest)
  | '\x7b' :: rest =>
    match rest.dropWhile (· != '\x7d') with
    | _ :: after => some (.reference (rest.takeWhile (· != '\x7d')), after)
    | [] => none
  | cs =>
    match cs.takeWhile isReferenceChar with
    | [] => none
    | ref => some (.reference ref, cs.dropWhile isReferenceChar)

/-- The parts of a template; the fuel bounds their number. -/
def templatePartsFrom : Nat → List Char → List TemplatePart
  | 0, _ => []
  | _ + 1, [] => []
  | fuel + 1, '$' :: rest =>
    match readReference rest with
    | some (part, after) => part :: templatePartsFrom fuel after
    | none => .text '$' :: templatePartsFrom fuel rest
  | fuel + 1, c :: rest => .text c :: templatePartsFrom fuel rest

/-- The parts of a template. -/
def templateParts (template : String) : List TemplatePart :=
  templatePartsFrom template.length template.toList

end Lettering.Regex
