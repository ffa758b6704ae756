import Lettering.Proofs.Meaning
import Lettering.Proofs.Skipping

/-!
# Decoding with the swapped set

A set of character rules and offsets whose rules keep out of each other's way is a code: run
swapped, it takes back what it made of a text.

* `Rule.Takes`, `Rule.Gives`: the characters that a rule changes and those it may change them into.
* `RuleSet.IsCode`: no character is taken twice, none is given twice, and the marker is neither.
* `Rule.IsLetter.undone`: one rule, swapped, takes back its own reply, whichever alternative it was.
* `RuleSet.IsCode.undone`: so does the whole swapped set, character by character.
* `Bundle.run_undone`: and so it does for every text.
-/

namespace Lettering

/-! ## 1. What a rule takes and gives -/

/-- A character is in the interval of an offset. -/
def OffsetSpec.Holds (s : OffsetSpec) (c : Char) : Prop :=
  (s.start.toNat : Int) ≤ c.toNat ∧ (c.toNat : Int) ≤ s.finish.toNat

/-- A character is in the interval of an offset when this is moved. -/
def OffsetSpec.HoldsMoved (s : OffsetSpec) (d : Char) : Prop :=
  s.start.toNat + s.offset.toInt ≤ d.toNat ∧ (d.toNat : Int) ≤ s.finish.toNat + s.offset.toInt

namespace Rule

/-- The rule changes a character: the key of a character rule, and those in the interval of the
offset taken. -/
def Takes (alternate : Nat) (c : Char) : Rule → Prop
  | char key _ => key = String.singleton c
  | offset _ spec => ∃ s, spec.pick alternate = some s ∧ s.Holds c
  | _ => False

/-- The rule may change a character into this one: any alternative of a character rule, and those
in the moved interval of the offset taken. -/
def Gives (alternate : Nat) (d : Char) : Rule → Prop
  | char _ value => String.singleton d ∈ value.all
  | offset _ spec => ∃ s, spec.pick alternate = some s ∧ s.HoldsMoved d
  | _ => False

/-- A rule of letters: one character becomes one of several, or an interval is moved. -/
inductive IsLetter : Rule → Prop where
  | char (c : Char) {value : Alternatives String} (nonempty : value.all ≠ [])
      (single : ∀ v ∈ value.all, ∃ d, v = String.singleton d) :
      IsLetter (.char (String.singleton c) value)
  | offset (name : String) (spec : Alternatives OffsetSpec) : IsLetter (.offset name spec)

/-- Two numbers of alternatives take the same offset. Of a character rule they may take different
ones. -/
def SameOffset (alternate other : Nat) : Rule → Prop
  | offset _ spec => spec.pick alternate = spec.pick other
  | _ => True

end Rule

namespace RuleSet

/-- Some rule of the set changes a character. -/
def Takes (alternate : Nat) (c : Char) (s : RuleSet) : Prop := ∃ r ∈ s.rules, r.Takes alternate c

/-- Some rule of the set may change a character into this one. -/
def Gives (alternate : Nat) (d : Char) (s : RuleSet) : Prop := ∃ r ∈ s.rules, r.Gives alternate d

/-- **A code**: a set of rules of letters, read forwards and not swapped, in which different rules
neither take nor give the same character, and none takes or gives the marker. -/
structure IsCode (alternate : Nat) (s : RuleSet) : Prop where
  straight : s.metadata.swapsEntries = false
  forwards : s.metadata.reverseOut = false
  letters : ∀ r ∈ s.rules, r.IsLetter
  takenOnce : ∀ r ∈ s.rules, ∀ r' ∈ s.rules, ∀ c,
    r.Takes alternate c → r'.Takes alternate c → r' = r
  givenOnce : ∀ r ∈ s.rules, ∀ r' ∈ s.rules, ∀ d,
    r.Gives alternate d → r'.Gives alternate d → r' = r
  markerKept : ¬ s.Takes alternate Marker.char
  markerFree : ¬ s.Gives alternate Marker.char

end RuleSet

/-! ## 2. Offsets -/

namespace OffsetSpec

variable {s : OffsetSpec} {c d : Char} {answer : Except LookupError String}

theorem answer?_straight_iff : s.answer? false c = some answer ↔
    s.Holds c ∧ movedTo c.toNat (Shift.sum c.toNat s.offset.toInt) = answer := by
  simp only [answer?, Bool.false_eq_true, if_false, Option.ite_none_right_eq_some, Option.some.injEq]
  exact Iff.rfl

theorem answer?_swapped_iff : s.answer? true d = some answer ↔
    s.HoldsMoved d ∧ movedTo d.toNat (Shift.sum d.toNat (-s.offset.toInt)) = answer := by
  simp only [answer?, if_true, Option.ite_none_right_eq_some, Option.some.injEq]
  exact Iff.rfl

/-- A character is moved to another one exactly by the distance between them, -/
theorem sum_eq_iff (s : OffsetSpec) :
    Shift.sum c.toNat s.offset.toInt = d.toNat ↔ (c.toNat : Int) + s.offset.toInt = d.toNat := by
  have hc : c.toNat < 4294967296 := c.val.toNat_lt
  have hd : d.toNat < 4294967296 := d.val.toNat_lt
  have hlow := s.offset.le_toInt
  have hhigh := s.offset.toInt_lt
  exact Shift.sum_eq_natCast_iff hc hd (by omega) (by omega)

/-- and moved back to it by the same distance. -/
theorem sum_neg_eq_iff (s : OffsetSpec) :
    Shift.sum d.toNat (-s.offset.toInt) = c.toNat ↔ (c.toNat : Int) + s.offset.toInt = d.toNat := by
  have hc : c.toNat < 4294967296 := c.val.toNat_lt
  have hd : d.toNat < 4294967296 := d.val.toNat_lt
  have hlow := s.offset.le_toInt
  have hhigh := s.offset.toInt_lt
  rw [Shift.sum_eq_natCast_iff hd hc (by omega) (by omega)]
  omega

/-- A character that is moved lands in the moved interval. -/
theorem holdsMoved_of_answer? (h : s.answer? false c = some (.ok (String.singleton d))) :
    s.HoldsMoved d ∧ (d.toNat : Int) = c.toNat + s.offset.toInt := by
  obtain ⟨⟨hlow, hhigh⟩, hmoved⟩ := answer?_straight_iff.1 h
  obtain ⟨d', hd, hnumber⟩ := movedTo_eq_ok_iff.1 hmoved
  obtain rfl := String.singleton_inj.1 hd
  have hsum := s.sum_eq_iff.1 hnumber.symm
  exact ⟨⟨by omega, by omega⟩, hsum.symm⟩

/-- **A character that is moved is moved back.** -/
theorem answer?_swapped_of_answer? (h : s.answer? false c = some (.ok (String.singleton d))) :
    s.answer? true d = some (.ok (String.singleton c)) := by
  obtain ⟨hmoved, hnumber⟩ := holdsMoved_of_answer? h
  refine answer?_swapped_iff.2 ⟨hmoved, movedTo_eq_ok_iff.2 ⟨c, rfl, ?_⟩⟩
  exact (s.sum_neg_eq_iff.2 (by omega)).symm

end OffsetSpec

/-! ## 3. One rule -/

namespace PlacedRule

variable {n : Nat} {swapped : Bool} {c : Char}

/-- A character rule replies with what it writes to the character. -/
theorem reply?_char (own : String) (value : Alternatives String) :
    reply? n c ⟨swapped, .char own value⟩ =
      (written? n (String.singleton c) ⟨swapped, .char own value⟩).map
        fun text => .ok (Marker.withChar c text) := rfl

/-- An offset replies with its answer. -/
theorem reply?_offset (name : String) (spec : Alternatives OffsetSpec) :
    reply? n c ⟨swapped, .offset name spec⟩ =
      (spec.pick n).bind fun s => s.answer? swapped c := by
  unfold reply?
  exact Option.or_none

/-- Straight, a character rule writes its alternative to its key. -/
theorem written?_straight_iff {own key text : String} {value : Alternatives String} :
    written? n key ⟨false, .char own value⟩ = some text ↔ own = key ∧ value.pick n = some text := by
  simp only [written?, Bool.false_eq_true, if_false, Option.ite_none_right_eq_some]

/-- Swapped, it writes its key to each alternative. -/
theorem written?_swapped_iff {own key text : String} {value : Alternatives String} :
    written? n key ⟨true, .char own value⟩ = some text ↔
      (own ≠ "" ∧ key ≠ "" ∧ key ∈ value.all) ∧ own = text := by
  simp only [written?, if_true, Option.ite_none_right_eq_some, Option.some.injEq]

end PlacedRule

/-- The alternative taken is one of them. -/
theorem Alternatives.mem_all_of_pick {α : Type} {a : Alternatives α} {n : Nat} {value : α}
    (h : a.pick n = some value) : value ∈ a.all := by
  cases a with
  | one only =>
    obtain rfl := Option.some.inj h
    exact List.mem_singleton_self only
  | many values =>
    rcases Option.or_eq_some_iff.1 h with hnth | ⟨-, hfirst⟩
    · exact List.mem_of_getElem? hnth
    · exact List.mem_of_head? hfirst

namespace Rule

variable {n m : Nat} {r : Rule} {c d : Char} {reply : Except LookupError String}

theorem SameOffset.refl (n : Nat) (r : Rule) : r.SameOffset n n := by
  cases r with
  | offset name spec => exact rfl
  | char | range | pattern => trivial

theorem gives_congr (h : r.SameOffset n m) : r.Gives n d ↔ r.Gives m d := by
  cases r with
  | offset name spec =>
    have hpick : spec.pick n = spec.pick m := h
    simp only [Gives, hpick]
  | char | range | pattern => exact Iff.rfl

theorem takes_congr (h : r.SameOffset n m) : r.Takes n c ↔ r.Takes m c := by
  cases r with
  | offset name spec =>
    have hpick : spec.pick n = spec.pick m := h
    simp only [Takes, hpick]
  | char | range | pattern => exact Iff.rfl

namespace IsLetter

/-- A rule replies to the characters that it takes and to no others. -/
theorem takes_iff_exists_reply (h : r.IsLetter) :
    r.Takes n c ↔ ∃ reply, PlacedRule.reply? n c ⟨false, r⟩ = some reply := by
  cases h with
  | char own nonempty single =>
    rw [PlacedRule.reply?_char]
    constructor
    · intro hown
      obtain ⟨text, hpick⟩ := Alternatives.exists_pick nonempty n
      exact ⟨_, Option.map_eq_some_iff.2
        ⟨text, PlacedRule.written?_straight_iff.2 ⟨hown, hpick⟩, rfl⟩⟩
    · rintro ⟨reply, hreply⟩
      obtain ⟨text, hwritten, -⟩ := Option.map_eq_some_iff.1 hreply
      exact (PlacedRule.written?_straight_iff.1 hwritten).1
  | offset name spec =>
    rw [PlacedRule.reply?_offset]
    constructor
    · rintro ⟨s, hpick, hholds⟩
      exact ⟨_, Option.bind_eq_some_iff.2
        ⟨s, hpick, OffsetSpec.answer?_straight_iff.2 ⟨hholds, rfl⟩⟩⟩
    · rintro ⟨reply, hreply⟩
      obtain ⟨s, hpick, hanswer⟩ := Option.bind_eq_some_iff.1 hreply
      exact ⟨s, hpick, (OffsetSpec.answer?_straight_iff.1 hanswer).1⟩

/-- Swapped, it replies only to the characters that it gives. -/
theorem gives_of_reply (h : r.IsLetter)
    (hreply : PlacedRule.reply? n d ⟨true, r⟩ = some reply) : r.Gives n d := by
  cases h with
  | char own nonempty single =>
    rw [PlacedRule.reply?_char] at hreply
    obtain ⟨text, hwritten, -⟩ := Option.map_eq_some_iff.1 hreply
    obtain ⟨⟨-, -, hmem⟩, -⟩ := PlacedRule.written?_swapped_iff.1 hwritten
    exact hmem
  | offset name spec =>
    rw [PlacedRule.reply?_offset] at hreply
    obtain ⟨s, hpick, hanswer⟩ := Option.bind_eq_some_iff.1 hreply
    exact ⟨s, hpick, (OffsetSpec.answer?_swapped_iff.1 hanswer).1⟩

/-- It neither writes a default nor does it swapped. -/
theorem no_default (h : r.IsLetter) (swapped : Bool) :
    PlacedRule.written? n "" ⟨swapped, r⟩ = none := by
  cases h with
  | offset name spec => rfl
  | char own nonempty single =>
    refine Option.eq_none_iff_forall_ne_some.2 fun text hwritten => ?_
    cases swapped with
    | false =>
      exact String.singleton_ne_empty (PlacedRule.written?_straight_iff.1 hwritten).1
    | true => exact (PlacedRule.written?_swapped_iff.1 hwritten).1.2.1 rfl

/-- **A rule takes back its own reply** when it is swapped, whichever alternative it was. -/
theorem undone (h : r.IsLetter) (hsame : r.SameOffset n m) (hc : c ≠ Marker.char)
    (hfree : ¬ r.Gives n Marker.char) {u : String}
    (hreply : PlacedRule.reply? n c ⟨false, r⟩ = some (.ok u)) :
    ∃ d, u = String.singleton d ∧ d ≠ Marker.char ∧
      PlacedRule.reply? m d ⟨true, r⟩ = some (.ok (String.singleton c)) := by
  cases h with
  | @char own value nonempty single =>
    rw [PlacedRule.reply?_char] at hreply
    obtain ⟨text, hwritten, hu⟩ := Option.map_eq_some_iff.1 hreply
    obtain ⟨hown, hpick⟩ := PlacedRule.written?_straight_iff.1 hwritten
    have hmem : text ∈ value.all := Alternatives.mem_all_of_pick hpick
    obtain ⟨d, rfl⟩ := single text hmem
    have hd : d ≠ Marker.char := fun e => hfree (e ▸ hmem)
    rw [Marker.withChar_singleton_of_ne c hd] at hu
    refine ⟨d, (Except.ok.inj hu).symm, hd, ?_⟩
    rw [PlacedRule.reply?_char]
    refine Option.map_eq_some_iff.2 ⟨String.singleton c, ?_, ?_⟩
    · exact PlacedRule.written?_swapped_iff.2
        ⟨⟨String.singleton_ne_empty, String.singleton_ne_empty, hmem⟩, hown⟩
    · rw [Marker.withChar_singleton_of_ne d hc]
  | offset name spec =>
    rw [PlacedRule.reply?_offset] at hreply
    obtain ⟨s, hpick, hanswer⟩ := Option.bind_eq_some_iff.1 hreply
    obtain ⟨-, hmoved⟩ := OffsetSpec.answer?_straight_iff.1 hanswer
    obtain ⟨d, rfl, -⟩ := movedTo_eq_ok_iff.1 hmoved
    have hgives : (Rule.offset name spec).Gives n d :=
      ⟨s, hpick, (OffsetSpec.holdsMoved_of_answer? hanswer).1⟩
    have hsame' : spec.pick n = spec.pick m := hsame
    refine ⟨d, rfl, fun e => hfree (e ▸ hgives), ?_⟩
    rw [PlacedRule.reply?_offset]
    exact Option.bind_eq_some_iff.2
      ⟨s, hsame' ▸ hpick, OffsetSpec.answer?_swapped_of_answer? hanswer⟩

end IsLetter

end Rule

/-! ## 4. Codes -/

namespace RuleSet.IsCode

variable {s : RuleSet} {n m : Nat} {c : Char}

/-- The marker is taken by no rule of a code. -/
theorem ne_marker_of_takes (h : s.IsCode n) (htakes : s.Takes n c) : c ≠ Marker.char :=
  fun e => h.markerKept (e ▸ htakes)

/-- A code is one for every number of alternatives that takes the same offsets. -/
theorem of_sameOffset (h : s.IsCode n) (hsame : ∀ r ∈ s.rules, r.SameOffset n m) :
    s.IsCode m where
  straight := h.straight
  forwards := h.forwards
  letters := h.letters
  takenOnce r hr r' hr' c ht ht' :=
    h.takenOnce r hr r' hr' c ((Rule.takes_congr (hsame r hr)).2 ht)
      ((Rule.takes_congr (hsame r' hr')).2 ht')
  givenOnce r hr r' hr' d hg hg' :=
    h.givenOnce r hr r' hr' d ((Rule.gives_congr (hsame r hr)).2 hg)
      ((Rule.gives_congr (hsame r' hr')).2 hg')
  markerKept := fun ⟨r, hr, ht⟩ => h.markerKept ⟨r, hr, (Rule.takes_congr (hsame r hr)).2 ht⟩
  markerFree := fun ⟨r, hr, hg⟩ => h.markerFree ⟨r, hr, (Rule.gives_congr (hsame r hr)).2 hg⟩

end RuleSet.IsCode

/-! ## 5. One set -/

theorem placedRules_single (s : RuleSet) :
    placedRules [s] = s.rules.map (PlacedRule.mk s.metadata.swapsEntries) :=
  List.flatMap_singleton ..

section AnyEngine

variable [Regex.Engine]

namespace Bundle

variable {name : String} {s : RuleSet} {n : Nat} {flatten : Bool} {b : Bundle} {c : Char}

/-- In the bundle of one set a character means what the only rule that replies makes of it. -/
theorem resolve_of_sole_reply (h : build name [s] ⟨n, flatten⟩ = .ok b) {r : Rule}
    (hr : r ∈ s.rules) {reply : Except LookupError String}
    (hreply : PlacedRule.reply? n c ⟨s.metadata.swapsEntries, r⟩ = some reply)
    (hsole : ∀ r' ∈ s.rules, ∀ reply',
      PlacedRule.reply? n c ⟨s.metadata.swapsEntries, r'⟩ = some reply' → r' = r)
    (hmarker : reply ≠ .ok Marker.text) : b.resolve c = reply := by
  have hagree : ∀ p ∈ placedRules [s], ∀ reply', p.reply? n c = some reply' → reply' = reply := by
    rw [placedRules_single]
    intro p hp reply' hreply'
    obtain ⟨r', hr', rfl⟩ := List.mem_map.1 hp
    rw [hsole r' hr' reply' hreply', hreply] at hreply'
    exact (Option.some.inj hreply').symm
  have hmem : (⟨s.metadata.swapsEntries, r⟩ : PlacedRule) ∈ placedRules [s] := by
    rw [placedRules_single]
    exact List.mem_map_of_mem hr
  have hanswer : lastAnswer? (PlacedRule.answer? n c) (placedRules [s]) ≠
      some (.ok Marker.text) := fun hlast => by
    obtain ⟨p, hp, ha⟩ := exists_of_lastAnswer?_eq_some hlast
    exact hmarker (hagree p hp _ (PlacedRule.reply?_of_answer? ha)).symm
  rw [resolve_eq_meaning h hanswer]
  exact meaning_of_reply hmem hreply hagree

/-- And itself where no rule replies. -/
theorem resolve_of_no_reply (h : build name [s] ⟨n, flatten⟩ = .ok b)
    (hreply : ∀ r ∈ s.rules, PlacedRule.reply? n c ⟨s.metadata.swapsEntries, r⟩ = none)
    (hdefault : ∀ r ∈ s.rules, PlacedRule.written? n "" ⟨s.metadata.swapsEntries, r⟩ = none) :
    b.resolve c = .ok (String.singleton c) := by
  have hnone : ∀ p ∈ placedRules [s], p.reply? n c = none ∧ p.written? n "" = none := by
    rw [placedRules_single]
    intro p hp
    obtain ⟨r, hr, rfl⟩ := List.mem_map.1 hp
    exact ⟨hreply r hr, hdefault r hr⟩
  rw [resolve_of_no_answer h fun p hp => (Option.or_eq_none_iff.1 (hnone p hp).1).1]
  exact meaning_of_no_reply (fun p hp => (hnone p hp).1) fun p hp => (hnone p hp).2

/-- A set without patterns substitutes nothing. -/
theorem substitutions_eq_nil (h : build name [s] ⟨n, flatten⟩ = .ok b)
    (hletters : ∀ r ∈ s.rules, r.IsLetter) : b.substitutions = [] := by
  rw [substitutions_eq h, placedRules_single]
  refine List.filterMap_eq_nil_iff.2 fun p hp => ?_
  obtain ⟨r, hr, rfl⟩ := List.mem_map.1 hp
  cases hletters r hr <;> rfl

end Bundle

/-! ## 6. Bundles of codes -/

namespace RuleSet.IsCode

variable {s : RuleSet} {n m : Nat} {c d : Char}
variable {name name' : String} {flatten flatten' : Bool} {b b' : Bundle}

/-- A character that a code takes means the reply of the rule that takes it. -/
theorem resolve_of_takes (h : s.IsCode n) (hb : Bundle.build name [s] ⟨n, flatten⟩ = .ok b)
    {r : Rule} (hr : r ∈ s.rules) (htakes : r.Takes n c) :
    PlacedRule.reply? n c ⟨false, r⟩ = some (b.resolve c) := by
  have hletter := h.letters r hr
  obtain ⟨reply, hreply⟩ := hletter.takes_iff_exists_reply.1 htakes
  have hfree : ¬ r.Gives n Marker.char := fun hg => h.markerFree ⟨r, hr, hg⟩
  have hmarker : reply ≠ .ok Marker.text := by
    rintro rfl
    obtain ⟨d, hd, hne, -⟩ := hletter.undone (Rule.SameOffset.refl n r)
      (h.ne_marker_of_takes ⟨r, hr, htakes⟩) hfree hreply
    have hmarker : String.singleton Marker.char = String.singleton d := hd
    exact hne (String.singleton_inj.1 hmarker).symm
  rw [hreply]
  refine congrArg some (Bundle.resolve_of_sole_reply hb hr ?_ ?_ hmarker).symm
  · rw [h.straight]
    exact hreply
  · rw [h.straight]
    intro r' hr' reply' hreply'
    exact h.takenOnce r hr r' hr' c htakes
      ((h.letters r' hr').takes_iff_exists_reply.2 ⟨reply', hreply'⟩)

/-- Any other character means itself. -/
theorem resolve_of_not_takes (h : s.IsCode n)
    (hb : Bundle.build name [s] ⟨n, flatten⟩ = .ok b) (htakes : ¬ s.Takes n c) :
    b.resolve c = .ok (String.singleton c) := by
  refine Bundle.resolve_of_no_reply hb (fun r hr => ?_) fun r hr => (h.letters r hr).no_default _
  rw [h.straight]
  refine Option.eq_none_iff_forall_ne_some.2 fun reply hreply => htakes ⟨r, hr, ?_⟩
  exact (h.letters r hr).takes_iff_exists_reply.2 ⟨reply, hreply⟩

/-- Swapped, a code gives a character the reply of the only rule that gives it. -/
theorem resolve_of_gives (h : s.IsCode n)
    (hb : Bundle.build name [s.swapping true] ⟨n, flatten⟩ = .ok b) {r : Rule} (hr : r ∈ s.rules)
    {reply : Except LookupError String} (hreply : PlacedRule.reply? n d ⟨true, r⟩ = some reply)
    (hmarker : reply ≠ .ok Marker.text) : b.resolve d = reply := by
  have hgives : r.Gives n d := (h.letters r hr).gives_of_reply hreply
  refine Bundle.resolve_of_sole_reply hb hr hreply (fun r' hr' reply' hreply' => ?_) hmarker
  exact h.givenOnce r hr r' hr' d hgives ((h.letters r' hr').gives_of_reply hreply')

/-- Any other character means itself. -/
theorem resolve_of_not_gives (h : s.IsCode n)
    (hb : Bundle.build name [s.swapping true] ⟨n, flatten⟩ = .ok b) (hgives : ¬ s.Gives n d) :
    b.resolve d = .ok (String.singleton d) := by
  refine Bundle.resolve_of_no_reply hb (fun r hr => ?_) fun r hr => (h.letters r hr).no_default _
  refine Option.eq_none_iff_forall_ne_some.2 fun reply hreply => hgives ⟨r, hr, ?_⟩
  exact (h.letters r hr).gives_of_reply hreply

/-- **The swapped set takes back what a code makes of a character**, unless the code gives the
character without taking it. -/
theorem undone (h : s.IsCode n) (hsame : ∀ r ∈ s.rules, r.SameOffset n m)
    (hb : Bundle.build name [s] ⟨n, flatten⟩ = .ok b)
    (hb' : Bundle.build name' [s.swapping true] ⟨m, flatten'⟩ = .ok b')
    (hopen : s.Gives n c → s.Takes n c) {u : String} (hu : b.resolve c = .ok u) :
    ∃ d, u = String.singleton d ∧ b'.resolve d = .ok (String.singleton c) := by
  have hback : s.IsCode m := h.of_sameOffset hsame
  by_cases htakes : s.Takes n c
  · have hc : c ≠ Marker.char := h.ne_marker_of_takes htakes
    obtain ⟨r, hr, hrule⟩ := htakes
    have hreply := h.resolve_of_takes hb hr hrule
    have hfree : ¬ r.Gives n Marker.char := fun hg => h.markerFree ⟨r, hr, hg⟩
    rw [hu] at hreply
    obtain ⟨d, rfl, -, hreply'⟩ := (h.letters r hr).undone (hsame r hr) hc hfree hreply
    refine ⟨d, rfl, hback.resolve_of_gives hb' hr hreply' fun e => hc ?_⟩
    have hmarker : String.singleton c = String.singleton Marker.char := Except.ok.inj e
    exact String.singleton_inj.1 hmarker
  · -- neither bundle changes the character
    have hgives : ¬ s.Gives m c := fun ⟨r, hr, hg⟩ =>
      htakes (hopen ⟨r, hr, (Rule.gives_congr (hsame r hr)).2 hg⟩)
    rw [h.resolve_of_not_takes hb htakes] at hu
    exact ⟨c, (Except.ok.inj hu).symm, hback.resolve_of_not_gives hb' hgives⟩

end RuleSet.IsCode

/-! ## 7. Texts -/

namespace Bundle

/-- What is taken back character by character is taken back in a row. -/
theorem resolveEach_undone {b b' : Bundle} {cs : List Char} {out : String}
    (h : ∀ c ∈ cs, ∀ u, b.resolve c = .ok u →
      ∃ d, u = String.singleton d ∧ b'.resolve d = .ok (String.singleton c))
    (hrun : b.resolveEach cs = .ok out) : b'.resolveEach out.toList = .ok (String.ofList cs) := by
  induction cs generalizing out with
  | nil =>
    cases hrun
    rfl
  | cons c cs ih =>
    rw [resolveEach] at hrun
    split at hrun
    · cases hrun
    · rename_i part hpart
      split at hrun
      · cases hrun
      · rename_i rest hrest
        obtain ⟨d, rfl, hd⟩ := h c List.mem_cons_self part hpart
        have hback := ih (fun x hx => h x (List.mem_cons_of_mem c hx)) hrest
        have hlist : out.toList = d :: rest.toList := by
          rw [← Except.ok.inj hrun, String.toList_append, String.toList_singleton]
          rfl
        rw [hlist, resolveEach, hd, hback]
        simp only [Except.ok.injEq]
        rw [← List.singleton_append, String.ofList_append, String.singleton_eq_ofList]

/-- Where a bundle of one set of letters reads forwards, it resolves the characters of a text one
after the other. -/
theorem run_eq_resolveEach {name : String} {s : RuleSet} {n : Nat} {flatten : Bool} {b : Bundle}
    (h : build name [s] ⟨n, flatten⟩ = .ok b) (hletters : ∀ r ∈ s.rules, r.IsLetter)
    (hforwards : s.metadata.reverseOut = false) (text : String) :
    b.run text = b.resolveEach text.toList := by
  obtain ⟨-, -, -, hmetadata⟩ := exists_draft_of_build h
  have hwalk : b.metadata.reverseOut = false := by
    rw [hmetadata]
    exact hforwards
  have hsame : b.substituteAll text = text := by
    rw [substituteAll, substitutions_eq_nil h hletters]
    rfl
  rw [run_eq_plainRun, plainRun, ← substituteAll_eq_substituteTail, hsame, walkingOrder, hwalk]
  rfl

/-- **A swapped code decodes what the code encodes.** Whatever text a code puts out, the swapped set
gives back the text that went in, as long as this has no character that the code gives without
taking it. Both bundles may be built plainly or not, and the swapped one for the same alternative or
for any other one that takes the same offsets: an encoded character is read back whichever
alternative was taken. -/
theorem run_undone {s : RuleSet} {n m : Nat} (hcode : s.IsCode n)
    (hsame : ∀ r ∈ s.rules, r.SameOffset n m)
    {name name' : String} {flatten flatten' : Bool} {b b' : Bundle}
    (hb : build name [s] ⟨n, flatten⟩ = .ok b)
    (hb' : build name' [s.swapping true] ⟨m, flatten'⟩ = .ok b') {text out : String}
    (hopen : ∀ c ∈ text.toList, s.Gives n c → s.Takes n c) (hrun : b.run text = .ok out) :
    b'.run out = .ok text := by
  rw [run_eq_resolveEach hb hcode.letters hcode.forwards] at hrun
  have hback := resolveEach_undone
    (fun c hc u hu => hcode.undone hsame hb hb' (hopen c hc) hu) hrun
  rw [run_eq_resolveEach hb' hcode.letters hcode.forwards, hback, String.ofList_toList]

end Bundle

end AnyEngine

namespace Bundle

/-- A code in which `b` is both given and taken: `a` becomes `b` or `x`, and `b`, `c` and `d` the
next letter. -/
def nextLetter : RuleSet :=
  ((RuleSet.new "next").addChars "a" ["b", "x"]).addOffset "up" ⟨98, 100, 1⟩

theorem mem_nextLetter {r : Rule} : r ∈ nextLetter.rules ↔
    r = .char "a" (.many ["b", "x"]) ∨ r = .offset "up" (.one ⟨98, 100, 1⟩) := by
  simp [nextLetter, RuleSet.addOffset, RuleSet.addChars, RuleSet.add, RuleSet.new]

/-- It takes `a` to `d`. -/
theorem nextLetter_takes {r : Rule} {c : Char} {n : Nat} (hr : r ∈ nextLetter.rules)
    (htakes : r.Takes n c) :
    r = .char "a" (.many ["b", "x"]) ∧ c = 'a' ∨
      r = .offset "up" (.one ⟨98, 100, 1⟩) ∧ 98 ≤ c.toNat ∧ c.toNat ≤ 100 := by
  rcases mem_nextLetter.1 hr with rfl | rfl
  · refine Or.inl ⟨rfl, ?_⟩
    have hkey : String.singleton 'a' = String.singleton c := htakes
    exact (String.singleton_inj.1 hkey).symm
  · obtain ⟨s, hpick, hlow, hhigh⟩ := htakes
    obtain rfl := Option.some.inj hpick
    exact Or.inr ⟨rfl, Int.ofNat_le.1 hlow, Int.ofNat_le.1 hhigh⟩

/-- It gives `b` to `e` and `x`. -/
theorem nextLetter_gives {r : Rule} {d : Char} {n : Nat} (hr : r ∈ nextLetter.rules)
    (hgives : r.Gives n d) :
    r = .char "a" (.many ["b", "x"]) ∧ (d = 'b' ∨ d = 'x') ∨
      r = .offset "up" (.one ⟨98, 100, 1⟩) ∧ 99 ≤ d.toNat ∧ d.toNat ≤ 101 := by
  rcases mem_nextLetter.1 hr with rfl | rfl
  · refine Or.inl ⟨rfl, ?_⟩
    have hmem : String.singleton d ∈ ['b', 'x'].map String.singleton := hgives
    obtain ⟨d', hd', he⟩ := List.mem_map.1 hmem
    obtain rfl := String.singleton_inj.1 he
    simpa using hd'
  · obtain ⟨s, hpick, hlow, hhigh⟩ := hgives
    obtain rfl := Option.some.inj hpick
    exact Or.inr ⟨rfl, Int.ofNat_le.1 hlow, Int.ofNat_le.1 hhigh⟩

theorem nextLetter_isCode (n : Nat) : nextLetter.IsCode n where
  straight := rfl
  forwards := rfl
  letters r hr := by
    rcases mem_nextLetter.1 hr with rfl | rfl
    · refine .char 'a' (by simp [Alternatives.all]) fun v hv => ?_
      have hmem : v ∈ ['b', 'x'].map String.singleton := hv
      obtain ⟨d, -, he⟩ := List.mem_map.1 hmem
      exact ⟨d, he.symm⟩
    · exact .offset ..
  takenOnce r hr r' hr' c ht ht' := by
    rcases nextLetter_takes hr ht with ⟨rfl, rfl⟩ | ⟨rfl, hlow, hhigh⟩ <;>
      rcases nextLetter_takes hr' ht' with ⟨rfl, hc⟩ | ⟨rfl, hlow', hhigh'⟩
    · rfl
    · exact absurd hlow' (by decide)
    · exact absurd hlow (by rw [hc]; decide)
    · rfl
  givenOnce r hr r' hr' d hg hg' := by
    rcases nextLetter_gives hr hg with ⟨rfl, hd⟩ | ⟨rfl, hlow, hhigh⟩ <;>
      rcases nextLetter_gives hr' hg' with ⟨rfl, hd'⟩ | ⟨rfl, hlow', hhigh'⟩
    · rfl
    · rcases hd with rfl | rfl
      · exact absurd hlow' (by decide)
      · exact absurd hhigh' (by decide)
    · rcases hd' with rfl | rfl
      · exact absurd hlow (by decide)
      · exact absurd hhigh (by decide)
    · rfl
  markerKept := fun ⟨r, hr, ht⟩ => by
    rcases nextLetter_takes hr ht with ⟨-, hc⟩ | ⟨-, -, hhigh⟩
    · exact absurd hc (by decide)
    · exact absurd hhigh (by decide)
  markerFree := fun ⟨r, hr, hg⟩ => by
    rcases nextLetter_gives hr hg with ⟨-, hd | hd⟩ | ⟨-, -, hhigh⟩
    · exact absurd hd (by decide)
    · exact absurd hd (by decide)
    · exact absurd hhigh (by decide)

/-- Encoded with the second alternative and written out, decoded plainly with the first. -/
theorem run_undone_nextLetter :
    ∃ b b', build "next" [nextLetter] ⟨1, true⟩ = .ok b ∧
      build "back" [nextLetter.swapping true] ⟨0, false⟩ = .ok b' ∧
      b.run "bad!" = .ok "cxe!" ∧ b'.run "cxe!" = .ok "bad!" := by
  have hb : build "next" [nextLetter] ⟨1, true⟩ = .ok _ := rfl
  have hb' : build "back" [nextLetter.swapping true] ⟨0, false⟩ = .ok _ := rfl
  refine ⟨_, _, hb, hb', ?_, ?_⟩
  · rfl
  · refine run_undone (nextLetter_isCode 1) (fun r hr => ?_) hb hb' (fun c hc hgives => ?_) ?_
    · rcases mem_nextLetter.1 hr with rfl | rfl
      · trivial
      · rfl
    · have hlist : c ∈ ['b', 'a', 'd', '!'] := hc
      simp only [List.mem_cons, List.not_mem_nil, or_false] at hlist
      rcases hlist with rfl | rfl | rfl | rfl
      · exact ⟨_, mem_nextLetter.2 (.inr rfl), _, rfl, by decide, by decide⟩
      · exact ⟨_, mem_nextLetter.2 (.inl rfl), rfl⟩
      · exact ⟨_, mem_nextLetter.2 (.inr rfl), _, rfl, by decide, by decide⟩
      · -- the mark is not given
        obtain ⟨r, hr, hgives⟩ := hgives
        rcases nextLetter_gives hr hgives with ⟨-, hd | hd⟩ | ⟨-, hlow, -⟩
        · exact absurd hd (by decide)
        · exact absurd hd (by decide)
        · exact absurd hlow (by decide)
    · rfl

end Bundle

end Lettering
