import Lettering.Proofs.Filling

/-!
# Cutting between characters

A template is searched for the bytes of the marker and cut at the hits, with no regard to its
characters. Nothing is ever cut in two, and what comes of it is a substitution on characters.

* `BeginsAt`: the marker's bytes stand at a place among the bytes of a text; `beginsAt_iff` says that
  they do exactly where the marker stands among its characters.
* `Leftmost`: what a search from the left finds that goes on behind each hit. There is one list of
  hits and it is `hits` (`Leftmost.unique`, `leftmost_hits`); it leaves nothing out
  (`Leftmost.mem_iff`), for no two hits overlap (`BeginsAt.apart`).
* `slice?`, `paste?`, `fill?`: the filling as it runs, each slice taken only if both its ends lie
  between characters. `paste?_step` is the slice up to one hit, `paste?_eq` the run.
* `fill_substitutes` puts these together.
-/

namespace Lettering.Marker

/-! ## 1. Where the marker's bytes stand -/

/-- The bytes that are searched for. -/
def bytes : List UInt8 := [0xEF, 0xBF, 0xBC]

/-- The marker's bytes stand among those of a text from a place on. -/
def BeginsAt (template : String) (place : Nat) : Prop :=
  bytes <+: template.toUTF8.data.toList.drop place

instance (template : String) (place : Nat) : Decidable (BeginsAt template place) :=
  inferInstanceAs (Decidable (bytes <+: template.toUTF8.data.toList.drop place))

theorem length_encode (s : String) : (encode s.toList).length = s.utf8ByteSize := by
  rw [← toUTF8_toList, Array.length_toList, String.toUTF8_eq_toByteArray]
  exact String.size_toByteArray

theorem utf8ByteSize_text : text.utf8ByteSize = 3 := by decide

/-- The marker's bytes do not stand inside a character. -/
theorem not_bytes_prefix_inside {c : Char} {k : Nat}
    (h : k + 1 < (String.utf8EncodeChar c).length) (rest : List UInt8) :
    ¬ bytes <+: (String.utf8EncodeChar c ++ rest).drop (k + 1) := by
  rintro ⟨more, hmore⟩
  rw [List.drop_append_of_le_length (Nat.le_of_lt h), List.drop_eq_getElem_cons h] at hmore
  have hfirst : 0xEF = (String.utf8EncodeChar c)[k + 1] := (List.cons.inj hmore).1
  have hmem : (String.utf8EncodeChar c)[k + 1] ∈ (String.utf8EncodeChar c).tail := by
    rw [← List.getElem_tail (by rw [List.length_tail]; omega)]
    exact List.getElem_mem _
  exact ne_first_of_mem_tail hmem hfirst.symm

/-- Where the marker's bytes stand among those of some characters, one of these is the marker. -/
theorem exists_of_bytes_prefix {cs : List Char} {place : Nat}
    (h : bytes <+: (encode cs).drop place) :
    ∃ before after, cs = before ++ char :: after ∧ (encode before).length = place := by
  induction cs generalizing place with
  | nil =>
    obtain ⟨more, hmore⟩ := h
    simp [encode, bytes] at hmore
  | cons c cs ih =>
    rw [encode_cons] at h
    by_cases hbehind : (String.utf8EncodeChar c).length ≤ place
    · obtain ⟨more, rfl⟩ := Nat.exists_eq_add_of_le hbehind
      rw [List.drop_length_add_append] at h
      obtain ⟨before, after, rfl, rfl⟩ := ih h
      exact ⟨c :: before, after, rfl, by rw [encode_cons, List.length_append]⟩
    · cases place with
      | zero =>
        obtain ⟨more, hmore⟩ := h
        have hc : c = char := eq_char_of_begins hmore.symm
        exact ⟨[], cs, by rw [hc, List.nil_append], rfl⟩
      | succ k => exact absurd h (not_bytes_prefix_inside (Nat.lt_of_not_le hbehind) _)

variable {template : String}

/-- **The marker's bytes stand exactly where the marker does.** -/
theorem beginsAt_iff {place : Nat} : BeginsAt template place ↔
    ∃ before after, template = before ++ text ++ after ∧ before.utf8ByteSize = place := by
  unfold BeginsAt
  rw [toUTF8_toList]
  constructor
  · intro h
    obtain ⟨before, after, hsplit, rfl⟩ := exists_of_bytes_prefix h
    refine ⟨String.ofList before, String.ofList after, ?_, ?_⟩
    · rw [← String.toList_inj, hsplit]
      simp [text, char]
    · rw [← length_encode, String.toList_ofList]
  · rintro ⟨before, after, rfl, rfl⟩
    rw [← length_encode, String.toList_append, String.toList_append, encode_append, encode_append,
      List.append_assoc, List.drop_left]
    exact List.prefix_append _ _

/-- Where the marker's bytes stand a cut before and behind them lies between characters. -/
theorem BeginsAt.isValid {place : Nat} (h : BeginsAt template place) :
    (⟨place⟩ : String.Pos.Raw).IsValid template ∧
      (⟨place + 3⟩ : String.Pos.Raw).IsValid template := by
  obtain ⟨before, after, rfl, rfl⟩ := beginsAt_iff.1 h
  have hbehind := (@String.Pos.Raw.isValid_rawEndPos (before ++ text)).append_right after
  rw [String.rawEndPos, String.utf8ByteSize_append, utf8ByteSize_text] at hbehind
  refine ⟨?_, hbehind⟩
  rw [String.append_assoc]
  exact String.Pos.Raw.isValid_rawEndPos.append_right (text ++ after)

/-- The marker's bytes do not overlap with themselves. -/
theorem BeginsAt.apart {place other : Nat} (h : BeginsAt template place)
    (hother : BeginsAt template other) (hlt : place < other) : place + 3 ≤ other := by
  obtain ⟨more, hmore⟩ := h
  obtain ⟨rest, hrest⟩ := hother
  obtain ⟨k, rfl⟩ := Nat.exists_eq_add_of_lt hlt
  rw [Nat.add_assoc, ← List.drop_drop, ← hmore] at hrest
  match k with
  | 0 | 1 => simp [bytes] at hrest
  | k + 2 => omega

/-! ## 2. Searching from the left -/

/-- What is found from a place on by a search from the left: the first place at which the marker's
bytes stand, and behind them what is found from there on. -/
inductive Leftmost (template : String) : Nat → List Nat → Prop where
  | ended {start : Nat} : (∀ place, start ≤ place → ¬ BeginsAt template place) →
      Leftmost template start []
  | found {start hit : Nat} {hs : List Nat} : start ≤ hit → BeginsAt template hit →
      (∀ place, start ≤ place → place < hit → ¬ BeginsAt template place) →
      Leftmost template (hit + 3) hs → Leftmost template start (hit :: hs)

/-- Only one list of hits is found. -/
theorem Leftmost.unique {start : Nat} {hs others : List Nat} (h : Leftmost template start hs)
    (hothers : Leftmost template start others) : hs = others := by
  induction h generalizing others with
  | ended hnone =>
    cases hothers with
    | ended => rfl
    | found hle hat => exact absurd hat (hnone _ hle)
  | @found start hit hs hle hat hfirst _ ih =>
    cases hothers with
    | ended hnone => exact absurd hat (hnone _ hle)
    | @found _ other others hle' hat' hfirst' hrest' =>
      have hsame : hit = other := by
        rcases Nat.lt_trichotomy hit other with hlt | heq | hlt
        · exact absurd hat (hfirst' _ hle hlt)
        · exact heq
        · exact absurd hat' (hfirst _ hle' hlt)
      subst hsame
      rw [ih hrest']

/-- A search may begin earlier by a place at which the marker's bytes do not stand. -/
theorem Leftmost.of_succ {start : Nat} {hs : List Nat} (h : Leftmost template (start + 1) hs)
    (hnot : ¬ BeginsAt template start) : Leftmost template start hs := by
  have hstart {place : Nat} (hle : start ≤ place) (hnext : start + 1 ≤ place → False)
      (hat : BeginsAt template place) : False := by
    rcases Nat.eq_or_lt_of_le hle with rfl | hlt
    · exact hnot hat
    · exact hnext hlt
  cases h with
  | ended hnone => exact .ended fun place hle hat => hstart hle (fun hlt => hnone _ hlt hat) hat
  | found hle hat hfirst hrest =>
    exact .found (by omega) hat
      (fun place hle hlt hat => hstart hle (fun hnext => hfirst _ hnext hlt hat) hat) hrest

/-- One step of the search after the other. -/
theorem leftmost_hitsFrom (pos : Nat) (bs : List UInt8)
    (h : template.toUTF8.data.toList.drop pos = bs) : Leftmost template pos (hitsFrom pos bs) := by
  fun_induction hitsFrom pos bs with
  | case1 pos =>
    refine .ended fun place hle hat => ?_
    obtain ⟨k, rfl⟩ := Nat.exists_eq_add_of_le hle
    rw [BeginsAt, ← List.drop_drop, h, List.drop_nil, List.prefix_nil] at hat
    cases hat
  | case2 pos rest ih =>
    refine .found (Nat.le_refl _) ?_ (fun place hle hlt => by omega) (ih ?_)
    · rw [BeginsAt, h]
      exact List.prefix_append bytes rest
    · rw [← List.drop_drop, h]
      rfl
  | case3 pos b rest hb ih =>
    refine (ih ?_).of_succ ?_
    · rw [← List.drop_drop, h]
      rfl
    · rw [BeginsAt, h]
      rintro ⟨more, hmore⟩
      cases hmore
      exact hb more rfl rfl

/-- **The hits are what a search from the left finds.** -/
theorem leftmost_hits (template : String) : Leftmost template 0 (hits template) :=
  leftmost_hitsFrom 0 _ rfl

/-- Nothing is left out. -/
theorem Leftmost.mem_iff {start place : Nat} {hs : List Nat} (h : Leftmost template start hs) :
    place ∈ hs ↔ start ≤ place ∧ BeginsAt template place := by
  induction h with
  | ended hnone => exact iff_of_false List.not_mem_nil fun hat => hnone _ hat.1 hat.2
  | @found start hit hs hle hat hfirst _ ih =>
    rw [List.mem_cons, ih]
    constructor
    · rintro (rfl | ⟨hbehind, hplace⟩)
      · exact ⟨hle, hat⟩
      · exact ⟨by omega, hplace⟩
    · rintro ⟨hstart, hplace⟩
      rcases Nat.lt_trichotomy place hit with hlt | heq | hlt
      · exact absurd hplace (hfirst _ hstart hlt)
      · exact .inl heq
      · exact .inr ⟨hat.apart hplace hlt, hplace⟩

/-! ## 3. Slices -/

/-- The characters between two places of a text, if both lie between characters. -/
def slice? (template : String) (start stop : Nat) : Option String :=
  if h : start ≤ stop ∧ (⟨start⟩ : String.Pos.Raw).IsValid template ∧
      (⟨stop⟩ : String.Pos.Raw).IsValid template then
    some (String.extract (template.pos ⟨start⟩ h.2.1) (template.pos ⟨stop⟩ h.2.2))
  else none

/-- The slices from place `last` on up to each hit, each but the last with the key behind it. -/
def paste? (template key : String) : String → Nat → List Nat → Option String
  | out, last, [] => (slice? template last template.utf8ByteSize).map (out ++ ·)
  | out, last, hit :: hs =>
    match slice? template last hit with
    | none => none
    | some stretch => paste? template key (out ++ stretch ++ key) (hit + 3) hs

/-- The filling as it runs, for a list of hits: without any the template is left as it is. -/
def fill? (template key : String) : List Nat → Option String
  | [] => some template
  | hs => paste? template key "" 0 hs

/-- A slice between the ends of two beginnings of a text is what the longer one has on top. -/
theorem slice?_append (before stretch after : String) :
    slice? (before ++ stretch ++ after) before.utf8ByteSize (before ++ stretch).utf8ByteSize =
      some stretch := by
  have hstart : (⟨before.utf8ByteSize⟩ : String.Pos.Raw).IsValid (before ++ stretch ++ after) :=
    (String.Pos.Raw.isValid_rawEndPos.append_right stretch).append_right after
  have hstop : (⟨(before ++ stretch).utf8ByteSize⟩ : String.Pos.Raw).IsValid
      (before ++ stretch ++ after) := String.Pos.Raw.isValid_rawEndPos.append_right after
  have hbytes : (before ++ stretch ++ after).toByteArray.extract (before.toByteArray.size + 0)
      (before.toByteArray.size + stretch.toByteArray.size) = stretch.toByteArray := by
    rw [String.append_assoc, String.toByteArray_append, ByteArray.extract_append_size_add,
      String.toByteArray_append, ByteArray.extract_append_eq_left rfl]
  have hle : before.utf8ByteSize ≤ (before ++ stretch).utf8ByteSize := by
    rw [String.utf8ByteSize_append]
    exact Nat.le_add_right _ _
  rw [slice?, dif_pos ⟨hle, hstart, hstop⟩, Option.some.injEq,
    ← String.toByteArray_inj, String.toByteArray_extract, String.offset_pos, String.offset_pos,
    String.utf8ByteSize_append]
  exact hbytes

/-- Of two beginnings of a text the longer one goes on with the rest behind the shorter. -/
theorem exists_stretch {before rest upto after : String} (h : before ++ rest = upto ++ after)
    (hle : before.utf8ByteSize ≤ upto.utf8ByteSize) :
    ∃ stretch, upto = before ++ stretch ∧ rest = stretch ++ after := by
  have hshorter := @String.Pos.splits_append_rawEndPos before rest
  have hlonger := (@String.Pos.splits_append_rawEndPos upto after).cast h.symm
  exact (hshorter.le_iff_exists_eq_append hlonger).1 hle

/-- There is no marker where its bytes do not stand. -/
theorem not_mem_of_not_beginsAt (before stretch after : String)
    (h : ∀ place, before.utf8ByteSize ≤ place → place < (before ++ stretch).utf8ByteSize →
      ¬ BeginsAt (before ++ stretch ++ after) place) : char ∉ stretch.toList := by
  intro hmem
  obtain ⟨upto, behind, hsplit⟩ := List.append_of_mem hmem
  have hstretch : stretch = String.ofList upto ++ text ++ String.ofList behind := by
    rw [← String.toList_inj, hsplit]
    simp [text, char]
  refine h (before ++ String.ofList upto).utf8ByteSize ?_ ?_ (beginsAt_iff.2
    ⟨before ++ String.ofList upto, String.ofList behind ++ after, ?_, rfl⟩)
  · rw [String.utf8ByteSize_append]
    exact Nat.le_add_right _ _
  · simp only [hstretch, String.utf8ByteSize_append, utf8ByteSize_text]
    omega
  · simp only [hstretch, String.append_assoc]

/-- **One slice**: what stands up to a hit goes out, and the key behind it. -/
theorem paste?_step (key out before stretch after : String) (hs : List Nat) :
    paste? (before ++ stretch ++ after) key out before.utf8ByteSize
        ((before ++ stretch).utf8ByteSize :: hs) =
      paste? (before ++ stretch ++ after) key (out ++ stretch ++ key)
        ((before ++ stretch).utf8ByteSize + 3) hs := by
  rw [paste?, slice?_append]

/-- **The run**: from the end of a beginning on, the hits that a search from there finds lead to the
rest with the key in place of each marker. -/
theorem paste?_eq {start : Nat} {hs : List Nat} (h : Leftmost template start hs)
    (key out before rest : String) (hsplit : template = before ++ rest)
    (hstart : before.utf8ByteSize = start) :
    paste? template key out start hs =
      some (out ++ String.ofList (fillChars key.toList rest.toList)) := by
  induction h generalizing out before rest with
  | ended hnone =>
    subst hsplit hstart
    have hfree : char ∉ rest.toList := by
      refine not_mem_of_not_beginsAt before rest "" fun place hle _ => ?_
      rw [String.append_empty]
      exact hnone place hle
    have hslice := slice?_append before rest ""
    rw [String.append_empty] at hslice
    rw [paste?, hslice, fillChars_of_not_mem _ hfree, String.ofList_toList, Option.map_some]
  | @found start hit hs hle hat hfirst _ ih =>
    subst hstart
    obtain ⟨upto, after, hupto, rfl⟩ := beginsAt_iff.1 hat
    rw [hsplit, String.append_assoc] at hupto
    obtain ⟨stretch, rfl, rfl⟩ := exists_stretch hupto hle
    have htemplate : template = before ++ stretch ++ (text ++ after) := by
      rw [hsplit, String.append_assoc]
    have hfree : char ∉ stretch.toList :=
      not_mem_of_not_beginsAt before stretch (text ++ after) (htemplate ▸ hfirst)
    have hrest := ih (out ++ stretch ++ key) (before ++ stretch ++ text) after
      (by rw [htemplate, ← String.append_assoc])
      (by rw [String.utf8ByteSize_append, utf8ByteSize_text])
    have hfilled : fillChars key.toList (stretch ++ (text ++ after)).toList =
        stretch.toList ++ (key.toList ++ fillChars key.toList after.toList) := by
      rw [String.toList_append, String.toList_append, fillChars_append,
        fillChars_of_not_mem _ hfree]
      exact congrArg _ (fillChars_cons_marker _ _)
    rw [htemplate, paste?_step, ← htemplate, hrest, hfilled, String.ofList_append,
      String.ofList_append, String.ofList_toList, String.ofList_toList]
    simp only [String.append_assoc]

/-- **The filling as it runs** takes no slice that is not one, and gives the filled template. -/
theorem fill?_eq {hs : List Nat} (h : Leftmost template 0 hs) (key : String) :
    fill? template key hs = some (fill template key) := by
  have hfill : fill template key = String.ofList (fillChars key.toList template.toList) := by
    rw [← toList_fill, String.ofList_toList]
  have hrun := paste?_eq h key "" "" template String.empty_append.symm rfl
  rw [String.empty_append, ← hfill] at hrun
  cases hs with
  | nil =>
    have hnone : hits template = [] := (leftmost_hits template).unique h
    rw [fill?, fill, hnone]
  | cons hit hs => exact hrun

/-! ## 4. Substitution -/

/-- What is said of a template and a key. -/
structure Substitutes (template key : String) : Prop where
  /-- The marker's bytes stand exactly where the marker stands among the characters, -/
  begins {place : Nat} : BeginsAt template place ↔
    ∃ before after, template = before ++ text ++ after ∧ before.utf8ByteSize = place
  /-- and a cut before or behind them lies between characters. -/
  between {place : Nat} : BeginsAt template place →
    (⟨place⟩ : String.Pos.Raw).IsValid template ∧ (⟨place + 3⟩ : String.Pos.Raw).IsValid template
  /-- The hits are what a search from the left finds, -/
  searched {hs : List Nat} : Leftmost template 0 hs ↔ hs = hits template
  /-- and these are all the places where the marker's bytes stand. -/
  complete {place : Nat} : place ∈ hits template ↔ BeginsAt template place
  /-- The filling as it runs along what such a search finds takes slices between characters only, and
  gives the filled template: -/
  sliced {hs : List Nat} : Leftmost template 0 hs →
    fill? template key hs = some (fill template key)
  /-- this has the key in place of each marker and every other character as it was. -/
  replaced : (fill template key).toList =
    template.toList.flatMap fun c => if c = char then key.toList else [c]
  /-- A template is found to hold the marker exactly if it does. -/
  found : occursIn template = true ↔ char ∈ template.toList
  /-- To fill what is filled is to fill with the filled key. -/
  twice (other : String) : fill (fill template key) other = fill template (fill key other)
  /-- The marker is left exactly if both the template and the key hold it. -/
  remains : occursIn (fill template key) = true ↔ occursIn template = true ∧ occursIn key = true

/-- **Filling is a substitution on characters, although it searches bytes**, for every template and
every key. -/
theorem fill_substitutes (template key : String) : Substitutes template key where
  begins := beginsAt_iff
  between h := h.isValid
  searched {hs} := by
    constructor
    · exact fun h => h.unique (leftmost_hits template)
    · rintro rfl
      exact leftmost_hits template
  complete {place} := by
    rw [(leftmost_hits template).mem_iff, and_iff_right (Nat.zero_le place)]
  sliced h := fill?_eq h key
  replaced := toList_fill template key
  found := occursIn_iff
  twice other := by
    rw [← String.toList_inj, toList_fill, toList_fill, toList_fill, toList_fill,
      fillChars_fillChars]
  remains := by
    rw [occursIn_iff, occursIn_iff, occursIn_iff, toList_fill, mem_fillChars_iff]

/-- Characters of one to four bytes, a neighbour of the marker among them, with two markers in a row
before and one behind them. -/
def surrounded : String := "\uFFFC\uFFFCa\u00E9\uFFFD😀\uFFFC"

/-- The last marker is found behind all of these, and the neighbour is not; the slices between the
three hits give the filled text; a key that holds the marker leaves it, and is filled in turn. -/
theorem fill_substitutes_surrounded :
    BeginsAt surrounded 16 ∧ 9 ∉ hits surrounded ∧
      fill? surrounded "<\uFFFC>" [0, 3, 16] = some (fill surrounded "<\uFFFC>") ∧
      occursIn (fill surrounded "<\uFFFC>") = true ∧
      fill (fill surrounded "<\uFFFC>") "xy" = fill surrounded "<xy>" := by
  refine ⟨?_, ?_, ?_, ?_, ?_⟩
  · exact (fill_substitutes surrounded "").begins.2
      ⟨"\uFFFC\uFFFCa\u00E9\uFFFD😀", "", by decide +kernel, by decide +kernel⟩
  · rw [(fill_substitutes surrounded "").complete]
    decide +kernel
  · have hhits : [0, 3, 16] = hits surrounded := by decide +kernel
    exact (fill_substitutes surrounded _).sliced
      ((fill_substitutes surrounded "").searched.2 hhits)
  · exact (fill_substitutes surrounded _).remains.2 ⟨by decide +kernel, by decide +kernel⟩
  · rw [(fill_substitutes surrounded _).twice]
    exact congrArg _ (by decide +kernel)

end Lettering.Marker
