import Mathlib.Data.List.Nodup
import Lettering.Proofs.Last
import Lettering.Rule.Basic
import Lettering.Rule.Metadata

/-!
# One JSON form for each value

A part of a rule set has one JSON form: reading accepts what writing gives, reads it back as what
was written, and accepts nothing else.

* `Inverts`: this law for a reader and a writer; one lemma for each kind of part.
* `ExactForm`: the law for a kind of specification, and that its form is never that of a list of
  such specifications. A reader of alternatives tries a single one first and a list second, so it
  needs both (`Alternatives.inverts`).
* `Rule.ofJson?_eq_some_iff`: a key and a value make a rule exactly if the key marks its kind and the
  value is the form of its alternatives.
* `Metadata.fields?_present`: the members of an object that leaves out what has no value are found
  by their names, and nothing is found for those left out.
* `forms_exact` puts rules and metadata together.
-/

namespace Lettering

variable {α : Type}

/-! ## 1. Parts -/

/-- A reader accepts exactly what a writer gives, and reads it as what was written. -/
def Inverts (read : Json → Option α) (write : α → Json) : Prop :=
  ∀ j a, read j = some a ↔ j = write a

namespace Inverts

variable {read : Json → Option α} {write : α → Json}

/-- What is written is read back. -/
theorem read_write (h : Inverts read write) (a : α) : read (write a) = some a := (h _ a).2 rfl

/-- What is read is written again the same way. -/
theorem eq_write (h : Inverts read write) {j : Json} {a : α} (hj : read j = some a) :
    j = write a := (h j a).1 hj

/-- A law for what is written and one for what is read make the whole. -/
theorem of_read_write (hw : ∀ a, read (write a) = some a)
    (hr : ∀ j a, read j = some a → j = write a) : Inverts read write := by
  intro j a
  constructor
  · exact hr j a
  · rintro rfl
    exact hw a

end Inverts

theorem text?_inverts : Inverts text? .str := by
  refine .of_read_write (fun s => rfl) fun j s h => ?_
  unfold text? at h
  split at h
  · cases h
    rfl
  · cases h

theorem bool?_inverts : Inverts Metadata.bool? .bool := by
  refine .of_read_write (fun b => rfl) fun j b h => ?_
  unfold Metadata.bool? at h
  split at h
  · cases h
    rfl
  · cases h

theorem word32?_inverts : Inverts word32? fun w => .int w.toNat := by
  refine .of_read_write (fun w => ?_) fun j w h => ?_
  · have hw : w.toNat < UInt32.size := w.toNat_lt_size
    have hrange : (0 : Int) ≤ w.toNat ∧ (w.toNat : Int) < UInt32.size := by omega
    simp only [word32?, if_pos hrange, Int.toNat_natCast, UInt32.ofNat_toNat]
  · unfold word32? at h
    split at h
    · rename_i n
      split at h
      · rename_i hn
        cases h
        have hlt : n.toNat < UInt32.size := by omega
        have hsame : (UInt32.ofNat n.toNat).toNat = n.toNat := UInt32.toNat_ofNat_of_lt hlt
        rw [hsame, Int.toNat_of_nonneg hn.1]
      · cases h
    · cases h

theorem int64?_inverts : Inverts int64? fun n => .int n.toInt := by
  refine .of_read_write (fun n => ?_) fun j m h => ?_
  · have hrange : Int64.minValue.toInt ≤ n.toInt ∧ n.toInt ≤ Int64.maxValue.toInt :=
      ⟨n.minValue_le_toInt, n.toInt_le⟩
    simp only [int64?, if_pos hrange, Int64.ofInt_toInt]
  · unfold int64? at h
    split at h
    · rename_i n
      split at h
      · rename_i hn
        cases h
        have hmax : Int64.maxValue.toInt = 2 ^ 63 - 1 := rfl
        have hlt : n < 2 ^ 63 := by omega
        rw [Int64.toInt_ofInt_of_le hn.1 hlt]
      · cases h
    · cases h

/-- A list is read item by item. -/
theorem listOf?_inverts {read : Json → Option α} {write : α → Json} (h : Inverts read write) :
    Inverts (listOf? read) fun xs => .arr (xs.map write) := by
  refine .of_read_write (fun xs => ?_) fun j xs hj => ?_
  · have hitems : read ∘ write = some := funext h.read_write
    show (xs.map write).mapM read = some xs
    rw [List.mapM_map, hitems]
    exact (List.mapM_pure (f := id)).trans (congrArg some xs.map_id)
  · unfold listOf? at hj
    split at hj
    · rename_i items
      congr 1
      induction items generalizing xs with
      | nil =>
        cases hj
        rfl
      | cons item items ih =>
        rw [List.mapM_cons] at hj
        obtain ⟨x, hx, hj⟩ := Option.bind_eq_some_iff.1 hj
        obtain ⟨rest, hrest, hj⟩ := Option.bind_eq_some_iff.1 hj
        cases hj
        rw [List.map_cons, ← h.eq_write hx, ← ih rest hrest]
    · cases hj

/-! ## 2. Specifications -/

/-- A kind of specification that is written in one way, and never like a list of its kind. -/
class ExactForm (α : Type) [JsonForm α] : Prop where
  inverts : Inverts (JsonForm.ofJson? : Json → Option α) JsonForm.toJson
  ne_list (a : α) (others : List α) : JsonForm.toJson a ≠ .arr (others.map JsonForm.toJson)

instance : ExactForm String where
  inverts := text?_inverts
  ne_list _ _ h := nomatch h

/-- The items of an offset are numbers, and those of a list of offsets are arrays. -/
instance : ExactForm OffsetSpec where
  inverts := by
    refine .of_read_write (fun s => ?_) fun j s h => ?_
    · simp only [JsonForm.ofJson?, JsonForm.toJson, word32?_inverts.read_write,
        int64?_inverts.read_write]
      rfl
    · simp only [JsonForm.ofJson?] at h
      split at h
      · obtain ⟨start, hstart, h⟩ := Option.bind_eq_some_iff.1 h
        obtain ⟨finish, hfinish, h⟩ := Option.bind_eq_some_iff.1 h
        obtain ⟨offset, hoffset, h⟩ := Option.bind_eq_some_iff.1 h
        cases h
        rw [word32?_inverts.eq_write hstart, word32?_inverts.eq_write hfinish,
          int64?_inverts.eq_write hoffset]
        rfl
      · cases h
  ne_list s others h := by
    cases others with
    | nil => cases h
    | cons first rest => cases h

/-- The items of a range are arrays of numbers and of texts, and those of a list of ranges are arrays
of arrays. -/
instance : ExactForm RangeSpec where
  inverts := by
    refine .of_read_write (fun s => ?_) fun j s h => ?_
    · simp only [JsonForm.ofJson?, JsonForm.toJson]
      rw [(listOf?_inverts word32?_inverts).read_write, (listOf?_inverts text?_inverts).read_write]
      rfl
    · simp only [JsonForm.ofJson?] at h
      split at h
      · obtain ⟨bounds, hbounds, h⟩ := Option.bind_eq_some_iff.1 h
        obtain ⟨values, hvalues, h⟩ := Option.bind_eq_some_iff.1 h
        cases h
        rw [(listOf?_inverts word32?_inverts).eq_write hbounds,
          (listOf?_inverts text?_inverts).eq_write hvalues]
        rfl
      · cases h
  ne_list s others h := by
    obtain ⟨bounds, values⟩ := s
    cases others with
    | nil => cases h
    | cons first rest =>
      cases bounds with
      | nil => cases h
      | cons bound bounds => cases h

/-- The items of a pattern are texts, and those of a list of patterns are arrays. -/
instance : ExactForm PatternSpec where
  inverts := by
    refine .of_read_write (fun s => rfl) fun j s h => ?_
    simp only [JsonForm.ofJson?] at h
    split at h
    · obtain ⟨pattern, hpattern, h⟩ := Option.bind_eq_some_iff.1 h
      obtain ⟨replacement, hreplacement, h⟩ := Option.bind_eq_some_iff.1 h
      cases h
      rw [text?_inverts.eq_write hpattern, text?_inverts.eq_write hreplacement]
      rfl
    · cases h
  ne_list s others h := by
    cases others with
    | nil => cases h
    | cons first rest => cases h

/-- **Alternatives are read as they were written**: a value that is read as a single specification
is not the form of a list, so trying the single one first loses none. -/
theorem Alternatives.inverts [JsonForm α] [ExactForm α] :
    Inverts (JsonForm.ofJson? : Json → Option (Alternatives α)) JsonForm.toJson := by
  have hone : Inverts (JsonForm.ofJson? : Json → Option α) JsonForm.toJson := ExactForm.inverts
  have hmany := listOf?_inverts hone
  refine .of_read_write (fun a => ?_) fun j a h => ?_
  · simp only [JsonForm.ofJson?]
    cases a with
    | one value =>
      simp only [JsonForm.toJson]
      rw [hone.read_write]
      rfl
    | many values =>
      simp only [JsonForm.toJson]
      have hnone : (JsonForm.ofJson? (.arr (values.map JsonForm.toJson)) : Option α) = none := by
        rw [Option.eq_none_iff_forall_ne_some]
        intro value hvalue
        exact ExactForm.ne_list value values (hone.eq_write hvalue).symm
      rw [hnone, hmany.read_write]
      rfl
  · rcases Option.or_eq_some_iff.1 h with h | ⟨-, h⟩
    · obtain ⟨value, hvalue, rfl⟩ := Option.map_eq_some_iff.1 h
      exact hone.eq_write hvalue
    · obtain ⟨values, hvalues, rfl⟩ := Option.map_eq_some_iff.1 h
      exact hmany.eq_write hvalues

/-! ## 3. Rules -/

/-- The kind that the first character of a key marks: characters of three kinds of rules, and any
other or none for a character rule. -/
def RuleKind.Marked : RuleKind → String → Prop
  | char, key => ∀ c ∈ key.toList.head?, c ∉ ['\uF811', '\uF812', '\uF813']
  | offset, key => key.toList.head? = some '\uF811'
  | pattern, key => key.toList.head? = some '\uF812'
  | range, key => key.toList.head? = some '\uF813'

theorem RuleKind.ofKey_eq_iff {key : String} {kind : RuleKind} :
    ofKey key = kind ↔ kind.Marked key := by
  unfold ofKey
  split
  · rename_i h
    cases kind <;> simp [Marked, h]
  · rename_i h
    cases kind <;> simp [Marked, h]
  · rename_i h
    cases kind <;> simp [Marked, h]
  · rename_i hoffset hpattern hrange
    cases hcs : key.toList with
    | nil => cases kind <;> simp [Marked, hcs]
    | cons c cs =>
      have ho : c ≠ '\uF811' := fun h => hoffset cs (h ▸ hcs)
      have hp : c ≠ '\uF812' := fun h => hpattern cs (h ▸ hcs)
      have hr : c ≠ '\uF813' := fun h => hrange cs (h ▸ hcs)
      cases kind <;> simp [Marked, hcs, ho, hp, hr]

namespace Rule

/-- A rule is of the kind that a key marks, and has the name that the key gives it. -/
structure FitsKey (r : Rule) (key : String) : Prop where
  kind : r.kind.Marked key
  name : r.name = if r.kind = .char then key else nameOfKey key

/-- The JSON form of what a rule says. -/
def toJson : Rule → Json
  | char _ value => JsonForm.toJson value
  | offset _ spec => JsonForm.toJson spec
  | range _ spec => JsonForm.toJson spec
  | pattern _ spec => JsonForm.toJson spec

theorem map_ofJson?_eq_some_iff [JsonForm α] [ExactForm α] {make : Alternatives α → Rule} {j : Json}
    {r : Rule} : (JsonForm.ofJson? j).map make = some r ↔
      ∃ a : Alternatives α, j = JsonForm.toJson a ∧ make a = r := by
  rw [Option.map_eq_some_iff]
  exact exists_congr fun a => and_congr_left' (Alternatives.inverts j a)

/-- **A key and a value make a rule** exactly if the rule fits the key and the value is its form. -/
theorem ofJson?_eq_some_iff {key : String} {j : Json} {r : Rule} :
    ofJson? key j = some r ↔ r.FitsKey key ∧ j = r.toJson := by
  constructor
  · intro h
    unfold ofJson? at h
    split at h
    all_goals
      rename_i hkind
      obtain ⟨a, rfl, rfl⟩ := map_ofJson?_eq_some_iff.1 h
      exact ⟨⟨RuleKind.ofKey_eq_iff.1 hkind, rfl⟩, rfl⟩
  · rintro ⟨⟨hmark, hname⟩, rfl⟩
    have hkind := RuleKind.ofKey_eq_iff.2 hmark
    cases r
    all_goals
      simp only [kind, name, reduceCtorEq, if_true, if_false] at hkind hname
      subst hname
      simp only [ofJson?, hkind]
      exact map_ofJson?_eq_some_iff.2 ⟨_, rfl, rfl⟩

end Rule

/-! ## 4. Objects -/

namespace Json

/-- The members of the names that have a value. -/
def present (slots : List (String × Option Json)) : List (String × Json) :=
  slots.filterMap fun s => s.2.map (s.1, ·)

theorem present_cons (name : String) (value : Option Json) (slots : List (String × Option Json)) :
    present ((name, value) :: slots) = value.toList.map (name, ·) ++ present slots := by
  cases value <;> rfl

theorem member?_append (xs ys : List (String × Json)) (name : String) :
    member? (xs ++ ys) name = (member? ys name).or (member? xs name) := by
  rw [member?, List.reverse_append, List.lookup_append]
  rfl

theorem names_present (slots : List (String × Option Json)) :
    ((present slots).map (·.1)).Sublist (slots.map (·.1)) := by
  induction slots with
  | nil => exact .slnil
  | cons s slots ih =>
    obtain ⟨name, value⟩ := s
    cases value with
    | none => exact ih.cons name
    | some j => exact ih.cons_cons name

theorem member?_eq_none {members : List (String × Json)} {name : String}
    (h : name ∉ members.map (·.1)) : member? members name = none := by
  rw [member?, List.lookup_eq_none_iff]
  intro m hm
  have hne : name ≠ m.1 := fun e => h (e ▸ List.mem_map_of_mem (List.mem_reverse.1 hm))
  simpa using hne

/-- A name stands for the value it was given, or for none. -/
theorem member?_present {slots : List (String × Option Json)} (h : (slots.map (·.1)).Nodup)
    {name : String} {value : Option Json} (hm : (name, value) ∈ slots) :
    member? (present slots) name = value := by
  induction slots with
  | nil => cases hm
  | cons s slots ih =>
    obtain ⟨first, firstValue⟩ := s
    rw [List.map_cons, List.nodup_cons] at h
    rw [present_cons, member?_append]
    rcases List.mem_cons.1 hm with he | hm
    · cases he
      have hnone : member? (present slots) name = none :=
        member?_eq_none fun hp => h.1 ((names_present slots).subset hp)
      rw [hnone, Option.none_or]
      cases value with
      | none => rfl
      | some j => simp [member?]
    · have hne : name ∉ ((firstValue.toList.map (first, ·)).map (·.1) : List String) := by
        have hother : name ≠ first := fun e => h.1 (List.mem_map.2 ⟨_, hm, e⟩)
        cases firstValue <;> simp [hother]
      rw [ih h.2 hm, member?_eq_none hne, Option.or_none]

/-- No name is repeated where none is given twice. -/
theorem not_repeats_present {slots : List (String × Option Json)} (h : (slots.map (·.1)).Nodup)
    (name : String) : repeats (present slots) name = false := by
  have hnodup : ((present slots).map (·.1)).Nodup := h.sublist (names_present slots)
  have hcount : ((present slots).filter fun m => m.1 == name).length =
      ((present slots).map (·.1)).count name := by
    rw [List.count, List.countP_map, List.countP_eq_length_filter]
    rfl
  have hone := List.nodup_iff_count_le_one.1 hnodup name
  simp only [repeats, hcount, decide_eq_false_iff_not]
  omega

end Json

namespace Metadata

/-- The members of an object are found by the places of their names. -/
theorem fields?_present {slots : List (String × Option Json)} (h : (slots.map (·.1)).Nodup) :
    fields? (slots.map (·.1)) (.obj (Json.present slots)) = some fun i => slots[i]?.bind (·.2) := by
  have hrepeats : (slots.map (·.1)).any (Json.repeats (Json.present slots)) = false := by
    rw [List.any_eq_false]
    intro name _
    rw [Json.not_repeats_present h name]
    exact Bool.false_ne_true
  simp only [fields?, hrepeats]
  refine congrArg some (funext fun i => ?_)
  rw [List.getElem?_map]
  cases hs : slots[i]? with
  | none => rfl
  | some s => exact Json.member?_present h (List.mem_of_getElem? hs)

/-! ## 5. Metadata -/

/-- The values of the members in the order of their names, `none` for one that is left out. -/
def slots (m : Metadata) : List (String × Option Json) :=
  [("reverse-trans", m.reverseTrans.map .bool), ("reverse", m.reverse.map .bool),
    ("reverse-out", some (.bool m.reverseOut)), ("version", m.version.map .str),
    ("desc", if m.desc.isEmpty then none
      else some (.obj (m.desc.toList.map fun e => (e.1, .str e.2))))]

theorem toJson_eq (m : Metadata) : m.toJson = .obj (Json.present m.slots) := by
  have hdesc (j : Json) : (if m.desc.isEmpty then [] else [("desc", j)]) =
      (if m.desc.isEmpty then none else some j).toList.map ("desc", ·) := by
    split <;> rfl
  simp only [toJson, slots, Json.present_cons, hdesc, Option.toList_map, List.map_map,
    List.append_assoc]
  rw [Json.present, List.filterMap_nil, List.append_nil]
  rfl

/-- A value that may be missing is read as it is, unless its form is that of a missing one. -/
theorem optional?_map {read : Json → Option α} {write : α → Json} (h : Inverts read write)
    (hnull : read .null = none) (a : Option α) : optional? read (a.map write) = some a := by
  cases a with
  | none => rfl
  | some a =>
    have ha := h.read_write a
    rw [Option.map_some]
    unfold optional?
    split
    · rename_i hj
      cases hj
    · rename_i hj
      rw [Option.some.inj hj, hnull] at ha
      cases ha
    · rename_i hj
      rw [← Option.some.inj hj, ha]
      rfl

theorem foldl_insert_toList (desc : Std.ExtTreeMap String String) :
    desc.toList.foldl (fun acc p => acc.insert p.1 p.2) ∅ = desc := by
  refine Std.ExtTreeMap.ext_getElem? fun language => ?_
  rw [getElem?_foldl_insert, Std.ExtTreeMap.getElem?_empty, Option.or_none]

theorem descriptions?_toList (desc : Std.ExtTreeMap String String) :
    descriptions? (.obj (desc.toList.map fun e => (e.1, .str e.2))) = some desc := by
  have hpairs : (desc.toList.map fun e => (e.1, Json.str e.2)).mapM
      (fun m => (text? m.2).map (m.1, ·)) = some desc.toList := by
    rw [List.mapM_map]
    exact (List.mapM_pure (f := id)).trans (congrArg some desc.toList.map_id)
  simp only [descriptions?, hpairs]
  exact congrArg some (foldl_insert_toList desc)

/-- **Metadata are read as they were written.** -/
theorem ofJson?_toJson (m : Metadata) : ofJson? m.toJson = some m := by
  have hnames : (m.slots.map (·.1)).Nodup := by
    show memberNames.Nodup
    decide
  have hfields : fields? memberNames m.toJson = some fun i => m.slots[i]?.bind (·.2) := by
    rw [toJson_eq]
    exact fields?_present hnames
  have hdesc : defaulted? descriptions? ∅ (if m.desc.isEmpty then none
      else some (.obj (m.desc.toList.map fun e => (e.1, .str e.2)))) = some m.desc := by
    split
    · rename_i hempty
      rw [Std.ExtTreeMap.isEmpty_iff.1 hempty]
      rfl
    · exact descriptions?_toList m.desc
  simp only [ofJson?, hfields, Option.bind_eq_bind, Option.bind_some, ofFields?, slots,
    List.getElem?_cons_zero, List.getElem?_cons_succ, optional?_map bool?_inverts rfl,
    optional?_map text?_inverts rfl, hdesc]
  rfl

end Metadata

/-! ## 6. Rules and metadata -/

/-- **Every value has one form and every form one value.** A key and a JSON value make exactly the
rule that fits the key and has the value as its form; so a key and a form leave no choice of the
rule, in particular none between one specification and a list, and a value that is the form of no
such rule is refused. Metadata are read as they were written, whatever is left out. -/
theorem forms_exact :
    (∀ key j r, Rule.ofJson? key j = some r ↔ r.FitsKey key ∧ j = r.toJson) ∧
      (∀ key (r r' : Rule), r.FitsKey key → r'.FitsKey key → r.toJson = r'.toJson → r = r') ∧
      (∀ key j, (∀ r : Rule, r.FitsKey key → j ≠ r.toJson) → Rule.ofJson? key j = none) ∧
      ∀ m : Metadata, Metadata.ofJson? m.toJson = some m := by
  refine ⟨fun _ _ _ => Rule.ofJson?_eq_some_iff, ?_, ?_, Metadata.ofJson?_toJson⟩
  · intro key r r' h h' hform
    have hr : Rule.ofJson? key r.toJson = some r := Rule.ofJson?_eq_some_iff.2 ⟨h, rfl⟩
    have hr' : Rule.ofJson? key r.toJson = some r' := Rule.ofJson?_eq_some_iff.2 ⟨h', hform⟩
    exact Option.some.inj (hr.symm.trans hr')
  · intro key j h
    rw [Option.eq_none_iff_forall_ne_some]
    intro r hr
    obtain ⟨hfits, hform⟩ := Rule.ofJson?_eq_some_iff.1 hr
    exact h r hfits hform

/-- The key of a pattern rule: a list of two patterns is a list although two texts are a pattern,
and three texts are neither. Metadata without version and descriptions come back without them. -/
theorem forms_exact_pattern :
    Rule.ofJson? "\uF812 dots" (.arr [.arr [.str "a", .str "b"], .arr [.str "c", .str "d"]]) =
        some (.pattern "dots" (.many [⟨"a", "b"⟩, ⟨"c", "d"⟩])) ∧
      Rule.ofJson? "\uF812 dots" (.arr [.str "a", .str "b"]) =
        some (.pattern "dots" (.one ⟨"a", "b"⟩)) ∧
      Rule.ofJson? "\uF812 dots" (.arr [.str "a", .str "b", .str "c"]) = none ∧
      Metadata.ofJson? (.obj [("reverse", .bool true), ("reverse-out", .bool false)]) =
        some ⟨none, some true, false, none, ∅⟩ := by
  obtain ⟨hreads, -, hrefuses, hmetadata⟩ := forms_exact
  have hname : Rule.nameOfKey "\uF812 dots" = "dots" := by decide +kernel
  have hmark : RuleKind.pattern.Marked "\uF812 dots" := by
    show "\uF812 dots".toList.head? = some '\uF812'
    decide +kernel
  have hfits (spec : Alternatives PatternSpec) :
      (Rule.pattern "dots" spec).FitsKey "\uF812 dots" := ⟨hmark, hname.symm⟩
  refine ⟨(hreads _ _ _).2 ⟨hfits _, rfl⟩, (hreads _ _ _).2 ⟨hfits _, rfl⟩, ?_, ?_⟩
  · refine hrefuses _ _ fun r hr hj => ?_
    have hkind : r.kind = .pattern :=
      (RuleKind.ofKey_eq_iff.2 hr.kind).symm.trans (RuleKind.ofKey_eq_iff.2 hmark)
    cases r with
    | char | offset | range => cases hkind
    | pattern name spec =>
      cases spec with
      | one value =>
        obtain ⟨pattern, replacement⟩ := value
        cases hj
      | many values =>
        cases values with
        | nil => cases hj
        | cons value values => cases hj
  · exact hmetadata ⟨none, some true, false, none, ∅⟩

end Lettering
