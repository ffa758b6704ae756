import Std.Data.ExtTreeMap
import Lettering.Marker

/-!
# Dictionaries

A dictionary takes characters to replacement texts, with a fallback for every key that has no entry
of its own.

* A key is written as a text: the empty text names the fallback, one character names its code
  point, and anything longer is kept under its own name and never meets a single character.
* The answer for a key is its entry, or else the fallback, or else the marker alone, with every
  marker replaced by the key.
* Storing the same key again replaces the entry; writing a dictionary over another does so key by
  key.

Entries are kept in maps whose equality is equality of contents, so two dictionaries are equal
exactly when they have the same entries.
-/

namespace Lettering

open Marker

/-! ## 1. Keys -/

/-- A key as the text it is written as is understood. -/
inductive Dictionary.Key where
  | fallback
  | codePoint (codePoint : Nat)
  | named (name : String)
  deriving DecidableEq, Repr

/-- How a text reads as a key. -/
def Dictionary.Key.ofString (key : String) : Dictionary.Key :=
  match key.toList with
  | [] => .fallback
  | [c] => .codePoint c.toNat
  | _ => .named key

/-- How a character reads as a key. -/
def Dictionary.Key.ofChar (c : Char) : Dictionary.Key := .codePoint c.toNat

namespace Dictionary.Key

theorem ofString_eq_fallback_iff {key : String} : ofString key = .fallback ↔ key = "" := by
  rw [← String.toList_inj]
  unfold ofString
  split <;> simp_all

theorem ofString_eq_codePoint_iff {key : String} {n : Nat} :
    ofString key = .codePoint n ↔ ∃ c : Char, key = String.singleton c ∧ c.toNat = n := by
  simp only [← String.toList_inj, String.toList_singleton]
  unfold ofString
  split <;> simp_all

theorem ofString_eq_named_iff {key name : String} :
    ofString key = .named name ↔ key = name ∧ 1 < key.length := by
  unfold ofString
  rw [← String.length_toList]
  split
  · rename_i hnil
    exact iff_of_false nofun fun h => by simp [hnil] at h
  · rename_i c hone
    exact iff_of_false nofun fun h => by simp [hone] at h
  · rename_i hnil hone
    rw [named.injEq, iff_self_and]
    rintro -
    cases hcs : key.toList with
    | nil => exact absurd hcs hnil
    | cons c cs =>
      cases cs with
      | nil => exact absurd hcs (hone c)
      | cons => simp

/-- Different texts are different keys. -/
theorem ofString_inj {key other : String} : ofString key = ofString other ↔ key = other := by
  constructor
  · intro h
    apply String.toList_inj.1
    unfold ofString at h
    split at h <;> split at h <;> simp_all [Char.toNat_inj]
  · exact congrArg ofString

end Dictionary.Key

/-! ## 2. Dictionaries and their entries -/

/-- Entries by code point, entries by longer name, and the fallback. -/
structure Dictionary where
  chars : Std.ExtTreeMap Nat String
  named : Std.ExtTreeMap String String
  fallback : Option String
  deriving DecidableEq

namespace Dictionary

/-- The dictionary without entries. -/
def empty : Dictionary := ⟨∅, ∅, none⟩

instance : Inhabited Dictionary := ⟨empty⟩

/-- The entry stored under a key, as stored. -/
def find? (d : Dictionary) : Key → Option String
  | .fallback => d.fallback
  | .codePoint c => d.chars[c]?
  | .named name => d.named[name]?

/-- Stores a text under a key, in place of what was there. -/
def insert (d : Dictionary) (key : Key) (value : String) : Dictionary :=
  match key with
  | .fallback => { d with fallback := some value }
  | .codePoint c => { d with chars := d.chars.insert c value }
  | .named name => { d with named := d.named.insert name value }

/-- Forgets the entry under a key. -/
def erase (d : Dictionary) (key : Key) : Dictionary :=
  match key with
  | .fallback => { d with fallback := none }
  | .codePoint c => { d with chars := d.chars.erase c }
  | .named name => { d with named := d.named.erase name }

/-- Stores the fallback. -/
def setFallback (d : Dictionary) (value : String) : Dictionary := d.insert .fallback value

/-- Stores every pair in order. -/
def insertMany (d : Dictionary) (entries : List (Key × String)) : Dictionary :=
  entries.foldl (fun d e => d.insert e.1 e.2) d

/-- The dictionary of a list of pairs, of which the last one for a key counts. -/
def ofList (entries : List (Key × String)) : Dictionary := empty.insertMany entries

/-- Whether a key has an entry. -/
def contains (d : Dictionary) (key : Key) : Bool := (d.find? key).isSome

/-- The number of entries, the fallback included. -/
def size (d : Dictionary) : Nat :=
  d.chars.size + d.named.size + (if d.fallback.isSome then 1 else 0)

/-- Whether there is no entry. -/
def isEmpty (d : Dictionary) : Bool := d.size == 0

/-- Every entry as stored: the fallback, then code points ascending, then names ascending. -/
def toList (d : Dictionary) : List (Key × String) :=
  (d.fallback.toList.map fun v => (Key.fallback, v)) ++
    (d.chars.toList.map fun e => (Key.codePoint e.1, e.2)) ++
    (d.named.toList.map fun e => (Key.named e.1, e.2))

/-- The entries of this dictionary over those of `target`, its fallback (if set) over the
other's. -/
def writeInto (d target : Dictionary) : Dictionary :=
  { chars := d.chars.foldl (fun acc k v => acc.insert k v) target.chars
    named := d.named.foldl (fun acc k v => acc.insert k v) target.named
    fallback := d.fallback.or target.fallback }

/-- The entries of this dictionary as one of their own. -/
def copy (d : Dictionary) : Dictionary := d.writeInto empty

/-! ## 3. Answers -/

/-- What a key without an entry stands for, markers unfilled. -/
def fallbackText (d : Dictionary) : String := d.fallback.getD Marker.text

/-- The answer for a code point: its entry or the fallback, filled with the character. -/
def answerChar (d : Dictionary) (c : Nat) : String :=
  fillChar ((d.chars[c]?).getD d.fallbackText) c

/-- The answer for a key. The fallback itself is given as stored. -/
def answer (d : Dictionary) : Key → String
  | .fallback => d.fallbackText
  | .codePoint c => d.answerChar c
  | .named name => fill ((d.named[name]?).getD d.fallbackText) name

/-- A dictionary answers every code point. -/
def covers (_ : Dictionary) (_ : Nat) : Bool := true

/-- Whether no character can come out different from how it went in. -/
def changesNothing (d : Dictionary) : Bool := d.chars.isEmpty && d.fallback.isNone

/-- The text with every character looked up in one pass from left to right. A dictionary that
cannot change anything gives the text back at once, and so does one without a fallback that lists
none of the characters. -/
def apply (d : Dictionary) (text : String) : String :=
  if d.changesNothing then text
  else if d.fallback.isNone && !(text.toList.any fun c => d.chars.contains c.toNat) then text
  else text.toList.foldl (fun out c => out ++ d.answerChar c.toNat) ""

/-! ## 4. One write at a time -/

@[simp] theorem find?_insert_self (d : Dictionary) (key : Key) (value : String) :
    (d.insert key value).find? key = some value := by
  cases key <;> simp [insert, find?]

/-- Storing under one key leaves every other key alone. -/
theorem find?_insert_of_ne (d : Dictionary) {key other : Key} (h : other ≠ key)
    (value : String) : (d.insert key value).find? other = d.find? other := by
  cases key with
  | fallback => cases other <;> simp_all [insert, find?]
  | codePoint c =>
    cases other with
    | codePoint x =>
      have hne : ¬ c = x := fun e => h (by rw [e])
      simp [insert, find?, Std.ExtTreeMap.getElem?_insert, hne]
    | fallback | named => simp [insert, find?]
  | named name =>
    cases other with
    | named other =>
      have hne : ¬ name = other := fun e => h (by rw [e])
      simp [insert, find?, Std.ExtTreeMap.getElem?_insert, hne]
    | fallback | codePoint => simp [insert, find?]

@[simp] theorem find?_erase_self (d : Dictionary) (key : Key) :
    (d.erase key).find? key = none := by
  cases key <;> simp [erase, find?]

end Dictionary

end Lettering
