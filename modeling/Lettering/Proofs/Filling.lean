import Lettering.Marker

/-!
# Filling by characters

`Marker.fill` searches and copies bytes. This file reads it character by character:

* a marker among the characters is a hit of its three bytes, and there is no other hit
  (`hitsFrom_encode_marker`, `hitsFrom_encode_cons`): the first byte of the marker begins a
  character wherever it stands, and three bytes that begin alike are the marker; so a text is found
  to hold the marker exactly if it does (`occursIn_iff`);
* so the bytes put together are those of the characters with each marker replaced
  (`splice_encode`), and `toList_fill` says so of the texts themselves;
* replacing twice is replacing once, with the key replaced in (`fillChars_fillChars`), and leaves a
  marker only where both have one (`mem_fillChars_iff`);
* for a key of one character the filled text is the template with that character in place of each
  marker (`fillChar_toNat`).
-/

namespace Lettering.Marker

/-! ## 1. Bytes of characters -/

/-- The bytes of a list of characters. -/
def encode (cs : List Char) : List UInt8 := cs.flatMap String.utf8EncodeChar

theorem encode_cons (c : Char) (cs : List Char) :
    encode (c :: cs) = String.utf8EncodeChar c ++ encode cs := rfl

theorem encode_append (cs ds : List Char) : encode (cs ++ ds) = encode cs ++ encode ds :=
  List.flatMap_append

theorem toUTF8_toList (s : String) : s.toUTF8.data.toList = encode s.toList := by
  have h : s.toByteArray = s.toList.utf8Encode := String.utf8Encode_toList.symm
  rw [String.toUTF8_eq_toByteArray, h, List.utf8Encode, List.data_toByteArray]
  rfl

theorem encode_inj {cs ds : List Char} (h : encode cs = encode ds) : cs = ds := by
  have hb : (String.ofList cs).toByteArray = (String.ofList ds).toByteArray := by
    rw [String.toByteArray_ofList, String.toByteArray_ofList, List.utf8Encode, List.utf8Encode]
    exact congrArg List.toByteArray h
  have hs := congrArg String.toList (String.toByteArray_inj.1 hb)
  simpa using hs

/-- The bytes of characters read as a text are these characters. -/
theorem fromUTF8?_encode (cs : List Char) :
    String.fromUTF8? ⟨(encode cs).toArray⟩ = some (String.ofList cs) := by
  have he : (⟨(encode cs).toArray⟩ : ByteArray) = cs.utf8Encode := by
    apply ByteArray.ext
    rw [List.utf8Encode, List.data_toByteArray]
    rfl
  have hv : ByteArray.IsValidUTF8 ⟨(encode cs).toArray⟩ := by
    rw [he]
    exact ByteArray.isValidUTF8_utf8Encode
  rw [String.fromUTF8?, dif_pos hv, Option.some.injEq, ← String.toByteArray_inj,
    String.toByteArray_ofList]
  exact he

theorem utf8EncodeChar_char : String.utf8EncodeChar char = [0xEF, 0xBF, 0xBC] := by decide

/-- Only the first byte of a character can be the first byte of the marker. -/
theorem ne_first_of_mem_tail {c : Char} {b : UInt8}
    (h : b ∈ (String.utf8EncodeChar c).tail) : b ≠ 0xEF := by
  obtain ⟨i, hi, rfl⟩ := List.mem_iff_getElem.1 h
  rw [List.getElem_tail]
  intro he
  have hfirst : UInt8.IsUTF8FirstByte 0xEF := by decide
  rw [← he, UInt8.isUTF8FirstByte_getElem_utf8EncodeChar] at hfirst
  omega

/-- A character whose bytes, with whatever follows, begin like the marker is the marker. -/
theorem eq_char_of_begins {c : Char} {rest more : List UInt8}
    (h : String.utf8EncodeChar c ++ rest = 0xEF :: 0xBF :: 0xBC :: more) : c = char := by
  have hb : String.utf8EncodeChar c ++ rest = String.utf8EncodeChar char ++ more := by
    rw [h, utf8EncodeChar_char]
    rfl
  have hd := congrArg (fun bs => (List.toByteArray bs).utf8DecodeChar? 0) hb
  simp only [List.toByteArray_append, ByteArray.utf8DecodeChar?_utf8EncodeChar_append] at hd
  exact Option.some.inj hd

/-! ## 2. Hits -/

/-- Where the marker's bytes do not begin, the search goes on one byte further. -/
theorem hitsFrom_cons_of_not {pos : Nat} {b : UInt8} {bs : List UInt8}
    (h : ∀ more, b :: bs ≠ 0xEF :: 0xBF :: 0xBC :: more) :
    hitsFrom pos (b :: bs) = hitsFrom (pos + 1) bs := by
  rw [hitsFrom]
  rintro more rfl rfl
  exact h more rfl

/-- Bytes that cannot begin the marker hold no hit. -/
theorem hitsFrom_skip {bs : List UInt8} (h : ∀ b ∈ bs, b ≠ 0xEF) (pos : Nat)
    (rest : List UInt8) : hitsFrom pos (bs ++ rest) = hitsFrom (pos + bs.length) rest := by
  induction bs generalizing pos with
  | nil => rfl
  | cons b bs ih =>
    have hb := h b List.mem_cons_self
    have hstep : hitsFrom pos (b :: (bs ++ rest)) = hitsFrom (pos + 1) (bs ++ rest) :=
      hitsFrom_cons_of_not fun more he => hb (List.cons.inj he).1
    rw [List.cons_append, hstep, ih fun x hx => h x (List.mem_cons_of_mem b hx),
      List.length_cons]
    congr 1
    omega

/-- A marker is a hit. -/
theorem hitsFrom_encode_marker (pos : Nat) (cs : List Char) :
    hitsFrom pos (encode (char :: cs)) = pos :: hitsFrom (pos + 3) (encode cs) := by
  rw [encode_cons, utf8EncodeChar_char]
  rfl

/-- Any other character holds none. -/
theorem hitsFrom_encode_cons {c : Char} (h : c ≠ char) (pos : Nat) (cs : List Char) :
    hitsFrom pos (encode (c :: cs)) =
      hitsFrom (pos + (String.utf8EncodeChar c).length) (encode cs) := by
  have htail := @ne_first_of_mem_tail c
  have hbegins := @eq_char_of_begins c (encode cs)
  rw [encode_cons]
  cases hc : String.utf8EncodeChar c with
  | nil => exact absurd hc String.utf8EncodeChar_ne_nil
  | cons b bs =>
    rw [hc] at htail hbegins
    have hfirst : ∀ more, b :: (bs ++ encode cs) ≠ 0xEF :: 0xBF :: 0xBC :: more :=
      fun more he => h (hbegins he)
    have hrest : ∀ x ∈ bs, x ≠ 0xEF := fun x hx => htail hx
    rw [List.cons_append, hitsFrom_cons_of_not hfirst, hitsFrom_skip hrest, List.length_cons]
    congr 1
    omega

/-- The search finds nothing exactly where there is no marker. -/
theorem hitsFrom_encode_eq_nil_iff {cs : List Char} {pos : Nat} :
    hitsFrom pos (encode cs) = [] ↔ char ∉ cs := by
  induction cs generalizing pos with
  | nil => simp [encode, hitsFrom]
  | cons c cs ih =>
    by_cases hc : c = char
    · subst hc
      simp [hitsFrom_encode_marker]
    · rw [hitsFrom_encode_cons hc, ih, List.mem_cons, not_or, and_iff_right (Ne.symm hc)]

/-- Every hit is found at or behind the position of the search. -/
theorem le_of_mem_hitsFrom {pos hit : Nat} {bs : List UInt8} (h : hit ∈ hitsFrom pos bs) :
    pos ≤ hit := by
  fun_induction hitsFrom pos bs with
  | case1 => simp at h
  | case2 pos rest ih =>
    rcases List.mem_cons.1 h with rfl | h
    · exact Nat.le_refl _
    · have := ih h
      omega
  | case3 pos b rest _ ih =>
    have := ih h
    omega

/-! ## 3. Splicing -/

/-- Bytes before the first hit are copied. -/
theorem splice_append (key : List UInt8) {pos : Nat} (bs rest : List UInt8) {hs : List Nat}
    (h : ∀ hit ∈ hs, pos + bs.length ≤ hit) :
    splice key pos (bs ++ rest) hs = bs ++ splice key (pos + bs.length) rest hs := by
  cases hs with
  | nil => rfl
  | cons hit hs =>
    have hle := h hit List.mem_cons_self
    have htake : hit - pos = bs.length + (hit - (pos + bs.length)) := by omega
    have hdrop : hit + 3 - pos = bs.length + (hit + 3 - (pos + bs.length)) := by omega
    rw [splice, splice, htake, hdrop, List.take_length_add_append, List.drop_length_add_append]
    simp only [List.append_assoc]

/-- The bytes of a key in place of the three bytes at a hit. -/
theorem splice_here (key : List UInt8) (pos : Nat) (rest : List UInt8) (hs : List Nat) :
    splice key pos (0xEF :: 0xBF :: 0xBC :: rest) (pos :: hs) =
      key ++ splice key (pos + 3) rest hs := by
  have hdrop : pos + 3 - pos = 3 := by omega
  rw [splice, Nat.sub_self, hdrop]
  rfl

/-- The characters of a template with those of a key in place of each marker. -/
def fillChars (key template : List Char) : List Char :=
  template.flatMap fun c => if c = char then key else [c]

theorem fillChars_cons_marker (key template : List Char) :
    fillChars key (char :: template) = key ++ fillChars key template := by
  rw [fillChars, List.flatMap_cons, if_pos rfl, fillChars]

theorem fillChars_cons (key : List Char) {c : Char} (h : c ≠ char) (template : List Char) :
    fillChars key (c :: template) = c :: fillChars key template := by
  rw [fillChars, List.flatMap_cons, if_neg h, fillChars, List.singleton_append]

theorem fillChars_of_not_mem (key : List Char) {template : List Char} (h : char ∉ template) :
    fillChars key template = template := by
  induction template with
  | nil => rfl
  | cons c template ih =>
    rw [List.mem_cons, not_or] at h
    rw [fillChars_cons key (Ne.symm h.1), ih h.2]

/-- A marker that is filled with itself stays. -/
theorem fillChars_char (template : List Char) : fillChars [char] template = template := by
  induction template with
  | nil => rfl
  | cons c template ih =>
    by_cases hc : c = char
    · subst hc
      rw [fillChars_cons_marker, ih, List.singleton_append]
    · rw [fillChars_cons _ hc, ih]

theorem fillChars_append (key template more : List Char) :
    fillChars key (template ++ more) = fillChars key template ++ fillChars key more :=
  List.flatMap_append

/-- What is filled twice is filled once, with the filled key. -/
theorem fillChars_fillChars (other key template : List Char) :
    fillChars other (fillChars key template) = fillChars (fillChars other key) template := by
  induction template with
  | nil => rfl
  | cons c template ih =>
    by_cases hc : c = char
    · subst hc
      rw [fillChars_cons_marker, fillChars_append, ih, fillChars_cons_marker]
    · rw [fillChars_cons key hc, fillChars_cons other hc, ih, fillChars_cons _ hc]

/-- A marker comes from one in the key, and only where there is one to fill. -/
theorem mem_fillChars_iff {key template : List Char} :
    char ∈ fillChars key template ↔ char ∈ template ∧ char ∈ key := by
  rw [fillChars, List.mem_flatMap]
  constructor
  · rintro ⟨c, hc, hmem⟩
    split at hmem
    · rename_i heq
      exact ⟨heq ▸ hc, hmem⟩
    · rename_i hne
      exact absurd (List.mem_singleton.1 hmem).symm hne
  · rintro ⟨htemplate, hkey⟩
    exact ⟨char, htemplate, by rwa [if_pos rfl]⟩

theorem not_mem_fillChars {key : List Char} (h : char ∉ key) (template : List Char) :
    char ∉ fillChars key template := fun hmem => h (mem_fillChars_iff.1 hmem).2

/-- Each marker takes the place of one character and gives that of the key. -/
theorem length_fillChars (key template : List Char) :
    (fillChars key template).length + template.count char =
      template.length + template.count char * key.length := by
  induction template with
  | nil => simp [fillChars]
  | cons c template ih =>
    by_cases hc : c = char
    · subst hc
      rw [fillChars_cons_marker, List.length_append, List.count_cons_self, List.length_cons,
        Nat.add_one_mul]
      omega
    · rw [fillChars_cons key hc, List.count_cons_of_ne hc, List.length_cons, List.length_cons]
      omega

/-- Splicing at the hits is replacing the marker among the characters. -/
theorem splice_encode (key cs : List Char) (pos : Nat) :
    splice (encode key) pos (encode cs) (hitsFrom pos (encode cs)) =
      encode (fillChars key cs) := by
  induction cs generalizing pos with
  | nil => rfl
  | cons c cs ih =>
    by_cases hc : c = char
    · subst hc
      rw [hitsFrom_encode_marker, encode_cons, utf8EncodeChar_char, fillChars_cons_marker,
        encode_append, ← ih (pos + 3)]
      exact splice_here _ _ _ _
    · have hbehind : ∀ hit ∈ hitsFrom (pos + (String.utf8EncodeChar c).length) (encode cs),
          pos + (String.utf8EncodeChar c).length ≤ hit := fun _ hh => le_of_mem_hitsFrom hh
      rw [hitsFrom_encode_cons hc, encode_cons, splice_append _ _ _ hbehind, ih,
        fillChars_cons key hc, encode_cons]

/-! ## 4. Texts -/

/-- **Filling replaces each marker by the key and keeps every other character.** -/
theorem toList_fill (template key : String) :
    (fill template key).toList = fillChars key.toList template.toList := by
  have hs := splice_encode key.toList template.toList 0
  unfold fill hits
  rw [toUTF8_toList, toUTF8_toList]
  split
  · rename_i hnone
    rw [hnone] at hs
    exact encode_inj hs
  · dsimp only
    rw [hs, fromUTF8?_encode, Option.getD_some, String.toList_ofList]

theorem occursIn_iff {template : String} : occursIn template = true ↔ char ∈ template.toList := by
  have hfound : occursIn template = true ↔ hits template ≠ [] := List.isSome_head?
  rw [hfound, hits, toUTF8_toList, ne_eq, hitsFrom_encode_eq_nil_iff, Decidable.not_not]

/-- A template with a character in place of each marker. -/
def withChar (c : Char) (template : String) : String :=
  template.map fun x => if x = char then c else x

/-- Filling for the number of a character puts this character in place of each marker. -/
theorem fillChar_toNat (template : String) (c : Char) :
    fillChar template c.toNat = withChar c template := by
  rw [fillChar, CodePoint.toChar?_toNat]
  apply String.toList_inj.1
  rw [toList_fill, withChar, String.toList_map, String.toList_singleton]
  induction template.toList with
  | nil => rfl
  | cons x xs ih =>
    by_cases hx : x = char
    · subst hx
      rw [fillChars_cons_marker, ih, List.map_cons, if_pos rfl, List.singleton_append]
    · rw [fillChars_cons _ hx, ih, List.map_cons, if_neg hx]

/-- A value that need not be filled is what filling would make of it. -/
theorem filledText?_toNat (template : String) (c : Char) :
    (filledText? template c.toNat).getD template = withChar c template := by
  rw [← fillChar_toNat, filledText?, CodePoint.toChar?_toNat, Option.isSome_some, Bool.true_and]
  split
  · rfl
  · rename_i hocc
    have hnone : hits template = [] := by
      cases hh : hits template with
      | nil => rfl
      | cons hit hs => simp [occursIn, hh] at hocc
    rw [fillChar, CodePoint.toChar?_toNat]
    simp only [fill, hnone, Option.getD_none]

/-- The marker alone stands for the character itself. -/
theorem withChar_text (c : Char) : withChar c text = String.singleton c := by
  apply String.toList_inj.1
  rw [withChar, String.toList_map, String.toList_singleton]
  rfl

/-- A text of one character other than the marker stays as it is. -/
theorem withChar_singleton_of_ne {d : Char} (c : Char) (h : d ≠ char) :
    withChar c (String.singleton d) = String.singleton d := by
  apply String.toList_inj.1
  rw [withChar, String.toList_map, String.toList_singleton, List.map_singleton, if_neg h]

end Lettering.Marker
