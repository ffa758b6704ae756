import Mathlib.Data.List.Nodup
import Lettering.Proofs.Filling
import Lettering.Proofs.Last

/-!
# Dictionaries under edits

Whatever edits a dictionary has gone through, its entries are the last texts written to their keys.

* `find?_writeInto`, `insertMany_of_perm`: a dictionary over another one, and its entries stored in
  whatever order.
* `Edit`, `run`: the edits, with keys as a caller gives them, and the dictionary after a row of them.
* `Touch`, `log`: an edit as what it does to single entries. `perform_eq` says so for one edit, and
  `run_eq` for a row of edits.
* `Live`: a write behind which its key is not touched again; `find?_run_iff`: the entries are the live
  writes.
* `Stands`: the text that stands for a key, by the live writes alone; `stands_iff_template` says that
  it is the one that the dictionary fills, and `toList_answer` what the filled text is.
* `find?_run_skip`, `fallback_in_force`: what an edit does not touch it leaves alone, so a fallback
  counts for the keys without an entry only.
* `edits_last_write_wins` puts these together.
-/

namespace Lettering.Dictionary

open Marker CodePoint

/-! ## 1. Entries -/

/-- Dictionaries with the same entries are equal. -/
theorem ext_find? {d e : Dictionary} (h : ∀ key, d.find? key = e.find? key) : d = e := by
  have hchars : d.chars = e.chars := Std.ExtTreeMap.ext_getElem? fun c => h (.codePoint c)
  have hnamed : d.named = e.named := Std.ExtTreeMap.ext_getElem? fun name => h (.named name)
  have hfallback : d.fallback = e.fallback := h .fallback
  cases d
  cases e
  cases hchars
  cases hnamed
  cases hfallback
  rfl

theorem find?_empty (key : Key) : empty.find? key = none := by
  cases key <;> simp [empty, find?]

theorem find?_erase (d : Dictionary) (key other : Key) :
    (d.erase key).find? other = if key = other then none else d.find? other := by
  by_cases h : key = other
  · subst h
    rw [find?_erase_self, if_pos rfl]
  · rw [if_neg h]
    cases key <;> cases other <;> simp_all [erase, find?, Std.ExtTreeMap.getElem?_erase]

/-- **Written over another dictionary**, a dictionary keeps its entries, and the other one those under
other keys. -/
theorem find?_writeInto (d target : Dictionary) (key : Key) :
    (d.writeInto target).find? key = (d.find? key).or (target.find? key) := by
  cases key with
  | fallback => rfl
  | codePoint c =>
    show (d.chars.foldl _ target.chars)[c]? = _
    rw [Std.ExtTreeMap.foldl_eq_foldl_toList]
    exact getElem?_foldl_insert d.chars target.chars c
  | named name =>
    show (d.named.foldl _ target.named)[name]? = _
    rw [Std.ExtTreeMap.foldl_eq_foldl_toList]
    exact getElem?_foldl_insert d.named target.named name

/-! ## 2. Lists of entries -/

theorem mem_toList_iff {d : Dictionary} {key : Key} {value : String} :
    (key, value) ∈ d.toList ↔ d.find? key = some value := by
  simp only [toList, List.mem_append, List.mem_map, Option.mem_toList]
  cases key <;> simp [find?, Prod.ext_iff]

theorem nodup_map_key {κ : Type} [Ord κ] [Std.TransOrd κ] [Std.LawfulEqOrd κ]
    (entries : Std.ExtTreeMap κ String) {key : κ → Key} (h : Function.Injective key) :
    (entries.toList.map fun e => key e.1).Nodup := by
  have hkeys := entries.nodup_keys
  rw [← Std.ExtTreeMap.map_fst_toList_eq_keys] at hkeys
  have hmap := hkeys.map h
  rwa [List.map_map] at hmap

/-- Every key is listed once. -/
theorem nodup_keys (d : Dictionary) : (d.toList.map (·.1)).Nodup := by
  have hchars := nodup_map_key d.chars fun _ _ h => Key.codePoint.inj h
  have hnamed := nodup_map_key d.named fun _ _ h => Key.named.inj h
  have hfallback : (d.fallback.toList.map fun _ => Key.fallback).Nodup := by
    cases d.fallback <;> simp
  simp only [toList, List.map_append, List.map_map]
  refine (hfallback.append hchars ?_).append hnamed ?_
  · intro key h₁ h₂
    simp only [List.mem_map] at h₁ h₂
    obtain ⟨_, _, rfl⟩ := h₁
    obtain ⟨_, _, h⟩ := h₂
    cases h
  · intro key h₁ h₂
    simp only [List.mem_append, List.mem_map] at h₁ h₂
    obtain ⟨_, _, rfl⟩ := h₂
    rcases h₁ with ⟨_, _, h⟩ | ⟨_, _, h⟩
    · cases h
    · cases h

/-- Where each key is listed once, the last text written to a key is the only one. -/
theorem lastAnswer?_writeTo?_iff {entries : List (Key × String)} (h : (entries.map (·.1)).Nodup)
    {key : Key} {value : String} :
    lastAnswer? (writeTo? key) entries = some value ↔ (key, value) ∈ entries := by
  constructor
  · intro hlast
    obtain ⟨entry, hm, hvalue⟩ := exists_of_lastAnswer?_eq_some hlast
    rwa [← writeTo?_eq_some_iff.1 hvalue]
  · intro hm
    cases hlast : lastAnswer? (writeTo? key) entries with
    | none =>
      have hnone := lastAnswer?_eq_none_iff.1 hlast _ hm
      exact absurd rfl (writeTo?_eq_none_iff.1 hnone)
    | some value' =>
      obtain ⟨entry, hm', hvalue⟩ := exists_of_lastAnswer?_eq_some hlast
      rw [writeTo?_eq_some_iff.1 hvalue] at hm'
      have hsame := congrArg Prod.snd (List.inj_on_of_nodup_map h hm' hm rfl)
      exact congrArg some hsame

/-- **The entries of a dictionary stored in whatever order** give what the dictionary written over
the other one gives. -/
theorem insertMany_of_perm {d : Dictionary} {entries : List (Key × String)}
    (h : entries.Perm d.toList) (target : Dictionary) :
    target.insertMany entries = d.writeInto target := by
  have hnodup : (entries.map (·.1)).Nodup := (h.map _).nodup_iff.2 d.nodup_keys
  refine ext_find? fun key => ?_
  rw [find?_insertMany, find?_writeInto]
  congr 1
  ext value
  rw [lastAnswer?_writeTo?_iff hnodup, h.mem_iff, mem_toList_iff]

theorem copy_eq (d : Dictionary) : d.copy = d := by
  refine ext_find? fun key => ?_
  rw [copy, find?_writeInto, find?_empty, Option.or_none]

/-! ## 3. Edits -/

/-- The ways to give a key. -/
inductive Spelling where
  | text (key : String)
  | char (c : Char)
  | number (codePoint : Nat)

/-- The key that is meant. -/
def Spelling.key : Spelling → Key
  | .text key => .ofString key
  | .char c => .ofChar c
  | .number codePoint => .codePoint codePoint

/-- What can be done to a dictionary. -/
inductive Edit where
  | set (key : Spelling) (value : String)
  | setFallback (value : String)
  | remove (key : Spelling)
  | extend (entries : List (Spelling × String))
  | overlay (source : Dictionary)

/-- One edit. -/
def perform (d : Dictionary) : Edit → Dictionary
  | .set key value => d.insert key.key value
  | .setFallback value => d.setFallback value
  | .remove key => d.erase key.key
  | .extend entries => d.insertMany (entries.map fun e => (e.1.key, e.2))
  | .overlay source => source.writeInto d

/-- A row of edits of the empty dictionary. -/
def run (edits : List Edit) : Dictionary := edits.foldl perform empty

/-- A key with the text written to it, or with none where its entry is removed. -/
abbrev Touch := Key × Option String

/-- What an edit does, entry by entry. -/
def Edit.touches : Edit → List Touch
  | .set key value => [(key.key, some value)]
  | .setFallback value => [(.fallback, some value)]
  | .remove key => [(key.key, none)]
  | .extend entries => entries.map fun e => (e.1.key, some e.2)
  | .overlay source => source.toList.map fun e => (e.1, some e.2)

/-- What a row of edits does, entry by entry. -/
def log (edits : List Edit) : List Touch := edits.flatMap Edit.touches

/-- One entry written or removed. -/
def touch (d : Dictionary) (t : Touch) : Dictionary :=
  match t.2 with
  | some value => d.insert t.1 value
  | none => d.erase t.1

theorem foldl_touch_writes {α : Type} (key : α → Key) (value : α → String) (xs : List α)
    (d : Dictionary) :
    (xs.map fun x => (key x, some (value x))).foldl touch d =
      d.insertMany (xs.map fun x => (key x, value x)) := by
  induction xs generalizing d with
  | nil => rfl
  | cons x xs ih => exact ih _

/-- One edit does what it does entry by entry. -/
theorem perform_eq (d : Dictionary) (edit : Edit) :
    d.perform edit = edit.touches.foldl touch d := by
  cases edit with
  | set | setFallback | remove => rfl
  | extend entries => exact (foldl_touch_writes (·.1.key) (·.2) entries d).symm
  | overlay source =>
    have hwrites := foldl_touch_writes (·.1) (·.2) source.toList d
    rw [List.map_id'' fun _ => rfl] at hwrites
    exact (insertMany_of_perm (List.Perm.refl _) d).symm.trans hwrites.symm

/-- A row of edits does what they do entry by entry. -/
theorem run_eq (edits : List Edit) : run edits = (log edits).foldl touch empty := by
  unfold run log
  generalize empty = d
  induction edits generalizing d with
  | nil => rfl
  | cons edit edits ih =>
    rw [List.foldl_cons, List.flatMap_cons, List.foldl_append, ih, perform_eq]

/-! ## 4. Live writes -/

/-- What becomes of the entry under a key, if that is the one that is touched. -/
def touched? (key : Key) (t : Touch) : Option (Option String) :=
  if t.1 = key then some t.2 else none

theorem touched?_eq_some_iff {key : Key} {t : Touch} {value : Option String} :
    touched? key t = some value ↔ t = (key, value) := by
  unfold touched?
  rw [Option.ite_none_right_eq_some, Option.some.injEq, Prod.ext_iff]

theorem touched?_eq_none_iff {key : Key} {t : Touch} : touched? key t = none ↔ t.1 ≠ key := by
  simp [touched?]

theorem find?_touch (d : Dictionary) (t : Touch) (key : Key) :
    (d.touch t).find? key = (touched? key t).getD (d.find? key) := by
  obtain ⟨other, value⟩ := t
  unfold touch touched?
  cases value with
  | some value =>
    dsimp only
    rw [find?_insert, writeTo?]
    split <;> rfl
  | none =>
    dsimp only
    rw [find?_erase]
    split <;> rfl

/-- After a row of touches there is under a key what the last one that hits it leaves. -/
theorem find?_foldl_touch (d : Dictionary) (touches : List Touch) (key : Key) :
    (touches.foldl touch d).find? key =
      (lastAnswer? (touched? key) touches).getD (d.find? key) := by
  induction touches generalizing d with
  | nil => rfl
  | cons t touches ih =>
    rw [List.foldl_cons, ih, find?_touch, lastAnswer?_cons]
    cases lastAnswer? (touched? key) touches <;> rfl

/-- A text is written to the key, and nothing behind it touches the key again. -/
def Live (touches : List Touch) (key : Key) (value : String) : Prop :=
  ∃ before behind, touches = before ++ (key, some value) :: behind ∧ ∀ t ∈ behind, t.1 ≠ key

theorem lastAnswer?_touched?_iff {touches : List Touch} {key : Key} {value : String} :
    lastAnswer? (touched? key) touches = some (some value) ↔ Live touches key value := by
  rw [lastAnswer?_eq_some_iff]
  constructor
  · rintro ⟨before, t, behind, htouches, ht, hbehind⟩
    rw [touched?_eq_some_iff.1 ht] at htouches
    exact ⟨before, behind, htouches, fun t ht => touched?_eq_none_iff.1 (hbehind t ht)⟩
  · rintro ⟨before, behind, htouches, hbehind⟩
    exact ⟨before, _, behind, htouches, touched?_eq_some_iff.2 rfl,
      fun t ht => touched?_eq_none_iff.2 (hbehind t ht)⟩

/-- **The entries are the live writes.** -/
theorem find?_run_iff {edits : List Edit} {key : Key} {value : String} :
    (run edits).find? key = some value ↔ Live (log edits) key value := by
  rw [run_eq, find?_foldl_touch, find?_empty, ← lastAnswer?_touched?_iff,
    Option.getD_eq_iff]
  simp

theorem find?_run_eq_none_iff {edits : List Edit} {key : Key} :
    (run edits).find? key = none ↔ ∀ value, ¬ Live (log edits) key value := by
  rw [Option.eq_none_iff_forall_ne_some]
  exact forall_congr' fun value => not_congr find?_run_iff

/-! ## 5. What stands for a key -/

/-- The text that stands for a key: what was written to it last if that is live, else what was last
written as the fallback, else the marker. -/
inductive Stands (touches : List Touch) (key : Key) : String → Prop where
  | entry {value : String} (h : Live touches key value) : Stands touches key value
  | fallback {value : String} (hnone : ∀ other, ¬ Live touches key other)
      (h : Live touches .fallback value) : Stands touches key value
  | bare (hnone : ∀ other, ¬ Live touches key other)
      (hfallback : ∀ other, ¬ Live touches .fallback other) : Stands touches key Marker.text

/-- The text that a dictionary fills for a key. -/
def template (d : Dictionary) (key : Key) : String :=
  (d.find? key).getD d.fallbackText

theorem template_of_find? {d : Dictionary} {key : Key} {value : String}
    (h : d.find? key = some value) : d.template key = value := by
  rw [template, h]
  rfl

theorem template_of_find?_none {d : Dictionary} {key : Key} (h : d.find? key = none) :
    d.template key = d.fallbackText := by
  rw [template, h]
  rfl

/-- **The text that stands for a key is the one that is filled.** -/
theorem stands_iff_template {edits : List Edit} {key : Key} {value : String} :
    Stands (log edits) key value ↔ (run edits).template key = value := by
  constructor
  · rintro (h | ⟨hnone, h⟩ | ⟨hnone, hfallback⟩)
    · exact template_of_find? (find?_run_iff.2 h)
    · have hentry : (run edits).fallback = some value := (@find?_run_iff edits .fallback value).2 h
      rw [template_of_find?_none (find?_run_eq_none_iff.2 hnone), fallbackText, hentry]
      rfl
    · have hentry : (run edits).fallback = none :=
        (@find?_run_eq_none_iff edits .fallback).2 hfallback
      rw [template_of_find?_none (find?_run_eq_none_iff.2 hnone), fallbackText, hentry]
      rfl
  · rintro rfl
    cases hentry : (run edits).find? key with
    | some value =>
      rw [template_of_find? hentry]
      exact .entry (find?_run_iff.1 hentry)
    | none =>
      have hnone := find?_run_eq_none_iff.1 hentry
      rw [template_of_find?_none hentry, fallbackText]
      cases hfallback : (run edits).fallback with
      | some value => exact .fallback hnone ((@find?_run_iff edits .fallback value).1 hfallback)
      | none => exact .bare hnone ((@find?_run_eq_none_iff edits .fallback).1 hfallback)

/-- The characters of a text filled for a key: the key in place of each marker, where it is a
character or a name. -/
def filledBy (key : Key) (value : String) : List Char :=
  match key with
  | .fallback => value.toList
  | .codePoint n =>
    match toChar? n with
    | some c => fillChars [c] value.toList
    | none => value.toList
  | .named name => fillChars name.toList value.toList

theorem toList_fillChar (value : String) (n : Nat) :
    (fillChar value n).toList = filledBy (.codePoint n) value := by
  simp only [fillChar, filledBy]
  cases toChar? n with
  | none => rfl
  | some c =>
    dsimp only
    rw [toList_fill, String.toList_singleton]

/-- **The answer for a key** is the text that stands for it, filled. -/
theorem toList_answer (d : Dictionary) (key : Key) :
    (d.answer key).toList = filledBy key (d.template key) := by
  cases key with
  | fallback =>
    show d.fallbackText.toList = (d.fallback.getD d.fallbackText).toList
    unfold fallbackText
    cases d.fallback <;> rfl
  | codePoint n => exact toList_fillChar _ n
  | named name => exact toList_fill _ name

/-- A text with at least one character takes the place of each marker as a whole. -/
theorem filledBy_ofString {s : String} (h : s ≠ "") (value : String) :
    filledBy (.ofString s) value = fillChars s.toList value.toList := by
  unfold Key.ofString
  split
  · rename_i hs
    exact absurd (String.toList_inj.1 hs) h
  · rename_i c hs
    rw [hs]
    simp only [filledBy, toChar?_toNat]
  · rfl

/-! ## 6. Every row of edits -/

theorem log_append (edits more : List Edit) : log (edits ++ more) = log edits ++ log more :=
  List.flatMap_append

/-- An edit that does not touch a key makes no difference to its entry. -/
theorem find?_run_skip {edit : Edit} {key : Key} (h : ∀ t ∈ edit.touches, t.1 ≠ key)
    (before after : List Edit) :
    (run (before ++ edit :: after)).find? key = (run (before ++ after)).find? key := by
  have hnone : lastAnswer? (touched? key) edit.touches = none :=
    lastAnswer?_eq_none_iff.2 fun t ht => touched?_eq_none_iff.2 (h t ht)
  have hcons : log (edit :: after) = edit.touches ++ log after := List.flatMap_cons
  simp only [run_eq, find?_foldl_touch, log_append, hcons, lastAnswer?_append, hnone,
    Option.or_none]

/-- Where the entries agree, so do the answers. -/
theorem answer_congr {d e : Dictionary} {key : Key} {value : String}
    (hd : d.find? key = some value) (he : e.find? key = some value) :
    d.answer key = e.answer key := by
  apply String.toList_inj.1
  rw [toList_answer, toList_answer, template_of_find? hd, template_of_find? he]

/-- A fallback that is written last stands for the keys without an entry, and for no other. -/
theorem fallback_in_force {before after : List Edit} {edit : Edit} {value : String}
    (hedit : edit.touches = [(.fallback, some value)])
    (hafter : ∀ t ∈ log after, t.1 ≠ .fallback) {key : Key} (hkey : key ≠ .fallback) :
    (∀ other, Live (log (before ++ edit :: after)) key other →
      (run (before ++ edit :: after)).answer key = (run (before ++ after)).answer key) ∧
    ((∀ other, ¬ Live (log (before ++ edit :: after)) key other) →
      ((run (before ++ edit :: after)).answer key).toList = filledBy key value) := by
  constructor
  · intro other hlive
    have hother : ∀ t ∈ edit.touches, t.1 ≠ key := by
      rw [hedit]
      intro t ht
      rw [List.mem_singleton.1 ht]
      exact hkey.symm
    have hentry := find?_run_iff.2 hlive
    exact answer_congr hentry (find?_run_skip hother before after ▸ hentry)
  · intro hnone
    have hlive : Live (log (before ++ edit :: after)) .fallback value := by
      refine ⟨log before, log after, ?_, hafter⟩
      rw [log_append, log, log, List.flatMap_cons, hedit]
      rfl
    rw [toList_answer, stands_iff_template.1 (.fallback hnone hlive)]

/-- What a row of edits leaves. -/
structure LastWriteWins (edits : List Edit) : Prop where
  /-- The empty text is the key of the fallback, a text of one character the same key as this
  character and its number, and any other text a key by its own name. -/
  spelled (s : String) (c : Char) : ((Spelling.text s).key = .fallback ↔ s = "") ∧
    ((Spelling.text s).key = (Spelling.char c).key ↔ s = String.singleton c) ∧
    (Spelling.char c).key = (Spelling.number c.toNat).key ∧
    (1 < s.length → (Spelling.text s).key = .named s)
  /-- Under a key there is what is live. -/
  entry {key : Key} {value : String} :
    (run edits).find? key = some value ↔ Live (log edits) key value
  /-- One text stands for each key. -/
  stands (key : Key) : ∃! value, Stands (log edits) key value
  /-- The answer for a character has it in place of each marker. -/
  character {c : Char} {value : String} : Stands (log edits) (.codePoint c.toNat) value →
    ((run edits).answerChar c.toNat).toList = fillChars [c] value.toList
  /-- The answer for any other number keeps its markers. -/
  noCharacter {n : Nat} {value : String} : ¬ n.isValidChar →
    Stands (log edits) (.codePoint n) value → (run edits).answerChar n = value
  /-- The answer for a text has the text in place of each marker. -/
  text {s value : String} : s ≠ "" → Stands (log edits) (.ofString s) value →
    ((run edits).answer (.ofString s)).toList = fillChars s.toList value.toList
  /-- A fallback, whenever it was written, is in force for the keys without a live entry and makes
  no difference to the others. -/
  fallback {before after : List Edit} {edit : Edit} {value : String} :
    edits = before ++ edit :: after → edit.touches = [(.fallback, some value)] →
    (∀ t ∈ log after, t.1 ≠ .fallback) → ∀ {key : Key}, key ≠ .fallback →
      (∀ other, Live (log edits) key other →
        (run edits).answer key = (run (before ++ after)).answer key) ∧
      ((∀ other, ¬ Live (log edits) key other) →
        ((run edits).answer key).toList = filledBy key value)
  /-- Over another dictionary, its entries come before those of the other one, and its fallback
  before the other one's. -/
  overlaid (target : Dictionary) (key : Key) :
    ((run edits).writeInto target).find? key = ((run edits).find? key).or (target.find? key) ∧
    (((run edits).writeInto target).answer key).toList =
      filledBy key ((((run edits).find? key).or (target.find? key)).getD
        (((run edits).fallback.or target.fallback).getD Marker.text))
  /-- The list of entries has each key once, with what is live. -/
  listed : ((run edits).toList.map (·.1)).Nodup ∧
    ∀ {key : Key} {value : String}, (key, value) ∈ (run edits).toList ↔ Live (log edits) key value
  /-- Copied, or collected from its entries, it is the same dictionary. -/
  copied : (run edits).copy = run edits ∧ ofList (run edits).toList = run edits
  /-- Nothing depends on the order in which the entries are visited. -/
  unordered {entries : List (Key × String)} : entries.Perm (run edits).toList →
    ofList entries = run edits ∧
    ∀ target : Dictionary, target.insertMany entries = (run edits).writeInto target

/-- **A dictionary holds what was written to it last**: whatever the edits and their order, its
entries are the live writes, and every answer is that of the live writes alone. -/
theorem edits_last_write_wins (edits : List Edit) : LastWriteWins edits where
  spelled s c := by
    refine ⟨Key.ofString_eq_fallback_iff, ?_, rfl, fun h => Key.ofString_eq_named_iff.2 ⟨rfl, h⟩⟩
    refine Key.ofString_eq_codePoint_iff.trans ?_
    simp only [Char.toNat_inj, exists_eq_right]
  entry := find?_run_iff
  stands key := ⟨_, stands_iff_template.2 rfl, fun _ h => (stands_iff_template.1 h).symm⟩
  character {c value} h := by
    show ((run edits).answer (.codePoint c.toNat)).toList = _
    rw [toList_answer, stands_iff_template.1 h]
    simp only [filledBy, toChar?_toNat]
  noCharacter {n value} hn h := by
    have hanswer := toList_answer (run edits) (.codePoint n)
    rw [stands_iff_template.1 h] at hanswer
    simp only [filledBy, (toChar?_eq_none_iff n).2 hn] at hanswer
    exact String.toList_inj.1 hanswer
  text hs h := by
    rw [toList_answer, stands_iff_template.1 h, filledBy_ofString hs]
  fallback hedits hedit hafter _ hkey := by
    subst hedits
    exact fallback_in_force hedit hafter hkey
  overlaid target key := by
    refine ⟨find?_writeInto _ target key, ?_⟩
    rw [toList_answer, template, find?_writeInto]
    rfl
  listed := ⟨nodup_keys _, mem_toList_iff.trans find?_run_iff⟩
  copied := ⟨copy_eq _, (insertMany_of_perm (.refl _) empty).trans (copy_eq _)⟩
  unordered h := ⟨(insertMany_of_perm h empty).trans (copy_eq _), insertMany_of_perm h⟩

/-- Keys given in three ways, one of them removed again, a fallback in between, and a number that
is no character. -/
def aliased : List Edit :=
  [.set (.text "a") "<\uFFFC>", .set (.char 'b') "x", .setFallback "[\uFFFC]",
    .remove (.text "b"), .extend [(.number 0xD800, "-\uFFFC"), (.text "ab", "\uFFFC!")],
    .set (.number 97) "(\uFFFC)"]

theorem edits_last_write_wins_aliased :
    (run aliased).answer (.ofString "a") = "(a)" ∧ (run aliased).answerChar 98 = "[b]" ∧
      (run aliased).answer (.ofString "ab") = "ab!" ∧
      (run aliased).answerChar 0xD800 = "-\uFFFC" := by
  have hlive (key : Key) (h : lastAnswer? (touched? key) (log aliased) = some none) (value) :
      ¬ Live (log aliased) key value := by
    rw [← lastAnswer?_touched?_iff, h]
    simp
  have ha : Stands (log aliased) (.ofString "a") "(\uFFFC)" :=
    .entry (lastAnswer?_touched?_iff.1 (by decide))
  have hb : Stands (log aliased) (.codePoint 'b'.toNat) "[\uFFFC]" :=
    .fallback (hlive _ (by decide)) (lastAnswer?_touched?_iff.1 (by decide))
  have hab : Stands (log aliased) (.ofString "ab") "\uFFFC!" :=
    .entry (lastAnswer?_touched?_iff.1 (by decide))
  have hsurrogate : Stands (log aliased) (.codePoint 0xD800) "-\uFFFC" :=
    .entry (lastAnswer?_touched?_iff.1 (by decide))
  refine ⟨String.toList_inj.1 ?_, String.toList_inj.1 ?_, String.toList_inj.1 ?_, ?_⟩
  · exact (edits_last_write_wins aliased).text (by decide) ha
  · exact (edits_last_write_wins aliased).character hb
  · exact (edits_last_write_wins aliased).text (by decide) hab
  · exact (edits_last_write_wins aliased).noCharacter (by decide) hsurrogate

end Lettering.Dictionary
