import Lettering.Interval.Shift
import Lettering.Proofs.Last
import Lettering.Proofs.Results

/-!
# What a shift writes

A shift written into a dictionary leaves its images under the keys of its interval and nothing
else. The steps: `collect` gathers the image of each key once (`collect_ok`), so the entries are
exactly the keys with their images (`mem_entries_iff`), and a row of writes with one entry for each
key is read off by the law of the last write.
-/

namespace Lettering.Shift

/-! ## 1. Images -/

/-- Only a key of the interval has an image. -/
theorem covers_of_image {l : Shift} {key : Nat} {d : Char} (h : l.image key = .ok d) :
    l.covers key = true := by
  unfold image at h
  split at h
  · assumption
  · cases h

theorem covers_iff {l : Shift} {key : Nat} :
    l.covers key = true ↔ l.start.toNat ≤ key ∧ key ≤ l.finish.toNat := by
  simp [covers]

/-- A key of the interval is a 32-bit number. -/
theorem lt_of_covers {l : Shift} {key : Nat} (h : l.covers key = true) : key < 4294967296 :=
  Nat.lt_of_le_of_lt (covers_iff.1 h).2 l.finish.toNat_lt

/-- The answer for a key is its image as a text. -/
theorem answer_of_image {l : Shift} {key : Nat} {d : Char} (h : l.image key = .ok d) :
    l.answer key = .ok (String.singleton d) := by
  rw [answer, h]
  rfl

/-! ## 2. Entries -/

/-- What is collected from a row of keys: every key has its image, and with the entries collected
before these are all. -/
theorem collect_ok {l : Shift} {count key : Nat} {acc out : List (Nat × Char)}
    (h : l.collect key acc count = .ok out) :
    (∀ k, key ≤ k → k < key + count → ∃ d, l.image k = .ok d) ∧
      ∀ k d, (k, d) ∈ out ↔ (k, d) ∈ acc ∨ key ≤ k ∧ k < key + count ∧ l.image k = .ok d := by
  induction count generalizing key acc with
  | zero =>
    have hout : acc.reverse = out := Except.ok.inj h
    subst hout
    refine ⟨fun k h1 h2 => by omega, fun k d => ?_⟩
    rw [List.mem_reverse]
    constructor
    · exact Or.inl
    · rintro (hm | ⟨h1, h2, -⟩)
      · exact hm
      · omega
  | succ count ih =>
    unfold collect at h
    split at h
    · rename_i c hc
      obtain ⟨hall, hmem⟩ := ih h
      refine ⟨fun k h1 h2 => ?_, fun k d => ?_⟩
      · rcases Nat.eq_or_lt_of_le h1 with rfl | hlt
        · exact ⟨c, hc⟩
        · exact hall k hlt (by omega)
      · rw [hmem, List.mem_cons, Prod.mk.injEq]
        constructor
        · rintro ((⟨rfl, rfl⟩ | hm) | ⟨h1, h2, hi⟩)
          · exact Or.inr ⟨Nat.le_refl _, by omega, hc⟩
          · exact Or.inl hm
          · exact Or.inr ⟨by omega, by omega, hi⟩
        · rintro (hm | ⟨h1, h2, hi⟩)
          · exact Or.inl (Or.inr hm)
          · rcases Nat.eq_or_lt_of_le h1 with rfl | hlt
            · rw [hc] at hi
              exact Or.inl (Or.inl ⟨rfl, (Except.ok.inj hi).symm⟩)
            · exact Or.inr ⟨hlt, by omega, hi⟩
    · cases h

/-- Where a shift can be written out, every key of the interval has an image. -/
theorem exists_image_of_entries {l : Shift} {out : List (Nat × Char)} (h : l.entries = .ok out)
    {key : Nat} (hc : l.covers key = true) : ∃ d, l.image key = .ok d := by
  obtain ⟨hlo, hhi⟩ := covers_iff.1 hc
  exact (collect_ok h).1 key hlo (by omega)

/-- The entries are the keys of the interval with their images. -/
theorem mem_entries_iff {l : Shift} {out : List (Nat × Char)} (h : l.entries = .ok out)
    {key : Nat} {d : Char} : (key, d) ∈ out ↔ l.image key = .ok d := by
  have hmem := (collect_ok h).2 key d
  rw [hmem]
  constructor
  · rintro (hm | ⟨-, -, hi⟩)
    · exact absurd hm List.not_mem_nil
    · exact hi
  · intro hi
    obtain ⟨hlo, hhi⟩ := covers_iff.1 (covers_of_image hi)
    exact Or.inr ⟨hlo, by omega, hi⟩

/-! ## 3. Writing into a dictionary -/

theorem writeInto_ok {l : Shift} {target out : Dictionary} (h : l.writeInto target = .ok out) :
    ∃ entries, l.entries = .ok entries ∧
      out = target.insertMany (entries.map fun e => (.codePoint e.1, String.singleton e.2)) := by
  obtain ⟨entries, he, hout⟩ := exists_of_bind_ok h
  exact ⟨entries, he, (Except.ok.inj hout).symm⟩

/-- A key of the interval holds its image afterwards. -/
theorem find?_writeInto_of_covers {l : Shift} {target out : Dictionary}
    (h : l.writeInto target = .ok out) {key : Nat} (hc : l.covers key = true) :
    ∃ d, l.image key = .ok d ∧ out.find? (.codePoint key) = some (String.singleton d) := by
  obtain ⟨entries, he, rfl⟩ := writeInto_ok h
  obtain ⟨d, hd⟩ := exists_image_of_entries he hc
  refine ⟨d, hd, ?_⟩
  rw [Dictionary.find?_insertMany]
  cases hlast : lastAnswer? (Dictionary.writeTo? (.codePoint key))
      (entries.map fun e => (Dictionary.Key.codePoint e.1, String.singleton e.2)) with
  | none =>
    have hnone := lastAnswer?_eq_none_iff.1 hlast (.codePoint key, String.singleton d)
      (List.mem_map.2 ⟨(key, d), (mem_entries_iff he).2 hd, rfl⟩)
    exact absurd rfl (Dictionary.writeTo?_eq_none_iff.1 hnone)
  | some value =>
    obtain ⟨x, hx, hvalue⟩ := exists_of_lastAnswer?_eq_some hlast
    obtain ⟨⟨k, d'⟩, hm, rfl⟩ := List.mem_map.1 hx
    have hi := (mem_entries_iff he).1 hm
    cases Dictionary.writeTo?_eq_some_iff.1 hvalue
    rw [hd] at hi
    rw [Except.ok.inj hi]
    rfl

/-- Any other key keeps what it held. -/
theorem find?_writeInto_of_not_covers {l : Shift} {target out : Dictionary}
    (h : l.writeInto target = .ok out) (key : Dictionary.Key)
    (hc : ∀ k, key = .codePoint k → l.covers k = false) :
    out.find? key = target.find? key := by
  obtain ⟨entries, he, rfl⟩ := writeInto_ok h
  have hnone : lastAnswer? (Dictionary.writeTo? key)
      (entries.map fun e => (Dictionary.Key.codePoint e.1, String.singleton e.2)) = none := by
    refine lastAnswer?_eq_none_iff.2 fun x hx => ?_
    obtain ⟨⟨k, d⟩, hm, rfl⟩ := List.mem_map.1 hx
    refine Dictionary.writeTo?_eq_none_iff.2 fun hk => ?_
    have hcov := covers_of_image ((mem_entries_iff he).1 hm)
    rw [hc k hk.symm] at hcov
    cases hcov
  rw [Dictionary.find?_insertMany, hnone, Option.none_or]

/-! ## 4. Building -/

/-- A number of 32 bits as a word. -/
theorem exists_word {n : Int} (hlow : 0 ≤ n) (hhigh : n < UInt32.size) :
    ∃ word : UInt32, (word.toNat : Int) = n := by
  refine ⟨UInt32.ofNat n.toNat, ?_⟩
  rw [UInt32.toNat_ofNat_of_lt' (by omega)]
  omega

/-- A shift passes the checks that it is built with. -/
theorem make_self (l : Shift) : make l.start l.finish l.offset = .ok l := by
  unfold make
  rw [dif_pos l.ordered, dif_pos ⟨l.startsAtLeastZero, l.startsInWord⟩]

theorem make_ok {start finish : UInt32} {offset : Int} {l : Shift}
    (h : make start finish offset = .ok l) :
    l.start = start ∧ l.finish = finish ∧ l.offset = offset := by
  unfold make at h
  split at h
  · split at h
    · cases h
      exact ⟨rfl, rfl, rfl⟩
    · cases h
  · cases h

theorem inverse_ok {l m : Shift} (h : l.inverse = .ok m) :
    (m.start.toNat : Int) = l.start.toNat + l.offset ∧
      (m.finish.toNat : Int) = l.finish.toNat + l.offset ∧ m.offset = -l.offset := by
  unfold inverse at h
  split at h
  · cases h
  · cases h
  · rename_i hs hf
    cases h
    exact ⟨moveBound_eq_ok_iff.1 hs, moveBound_eq_ok_iff.1 hf, rfl⟩

theorem makeInverse_ok {start finish : UInt32} {offset : Int} {l : Shift}
    (h : makeInverse start finish offset = .ok l) :
    (l.start.toNat : Int) = start.toNat + offset ∧
      (l.finish.toNat : Int) = finish.toNat + offset ∧ l.offset = -offset := by
  obtain ⟨m, hm, hi⟩ := exists_of_bind_ok h
  obtain ⟨rfl, rfl, rfl⟩ := make_ok hm
  exact inverse_ok hi

end Lettering.Shift
