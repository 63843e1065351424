import AffiliateLinks.Proofs.Numerals
import AffiliateLinks.Url.Percent

/-!
# The characters of encoded texts

An encoded text holds characters of the text that need no encoding, and besides them only percent
signs and the digits of escapes, which no part of a URL has to encode.
-/

namespace AffiliateLinks

/-- Neither white space nor a control character, and ASCII. -/
def IsPrintable (c : Char) : Prop := 0x20 < c.toNat ∧ c.toNat < 0x7F

namespace Percent

/-- The characters that escapes are written with. -/
def IsEscape (c : Char) : Prop :=
  c = '%' ∨ 48 ≤ c.toNat ∧ c.toNat ≤ 57 ∨ 65 ≤ c.toNat ∧ c.toNat ≤ 70

variable {s : EncodeSet} {t : Text} {c : Char}

lemma isEscape_upper_digit {n : Nat} (h : n < 16) : IsEscape (Numeral.digit n).toUpper := by
  have hall : ∀ n < 16, 48 ≤ (Numeral.digit n).toUpper.toNat ∧ (Numeral.digit n).toUpper.toNat ≤ 57 ∨
      65 ≤ (Numeral.digit n).toUpper.toNat ∧ (Numeral.digit n).toUpper.toNat ≤ 70 := by decide
  exact .inr (hall n h)

lemma isEscape_of_mem_byte {b : UInt8} (h : c ∈ byte b) : IsEscape c := by
  have hb : b.toNat < 256 := b.toNat_lt
  simp only [byte, Numeral.upperHexByte, Numeral.hexByte, List.map_cons, List.map_nil,
    List.mem_cons, List.not_mem_nil, or_false] at h
  rcases h with rfl | rfl | rfl
  · exact .inl rfl
  · exact isEscape_upper_digit (by omega)
  · exact isEscape_upper_digit (by omega)

theorem mem_encode (h : c ∈ encode s t) : (c ∈ t ∧ s c = false) ∨ IsEscape c := by
  obtain ⟨d, hd, hc⟩ := List.mem_flatMap.1 h
  unfold char at hc
  by_cases hs : s d = true
  · rw [if_pos hs] at hc
    obtain ⟨b, _, hb⟩ := List.mem_flatMap.1 hc
    exact .inr (isEscape_of_mem_byte hb)
  · rw [if_neg hs, List.mem_singleton] at hc
    subst hc
    exact .inl ⟨hd, by simpa using hs⟩

theorem encode_eq_self (h : ∀ c ∈ t, s c = false) : encode s t = t := by
  induction t with
  | nil => rfl
  | cons c t ih =>
    have hc : char s c = [c] := by
      rw [char, h c List.mem_cons_self, if_neg Bool.false_ne_true]
    change char s c ++ encode s t = c :: t
    rw [hc, ih fun d hd => h d (List.mem_cons_of_mem _ hd), List.singleton_append]

lemma control_eq_false_iff : control c = false ↔ 0x20 ≤ c.toNat ∧ c.toNat ≤ 0x7E := by
  simp only [control, Bool.or_eq_false_iff, decide_eq_false_iff_not]
  omega

lemma ne_space_iff (h : 0x20 ≤ c.toNat) : c ≠ ' ' ↔ 0x20 < c.toNat := by
  constructor
  · intro hc
    have hn : c.toNat ≠ 0x20 := fun hn => hc (Ascii.eq_of_toNat_eq hn)
    omega
  · rintro h rfl
    exact absurd h (by decide)

lemma isPrintable_of_control (h : control c = false) (hc : c ≠ ' ') : IsPrintable c := by
  obtain ⟨hlow, hhigh⟩ := control_eq_false_iff.1 h
  exact ⟨(ne_space_iff hlow).1 hc, by omega⟩

lemma isPrintable_of_fragment (h : fragment c = false) : IsPrintable c := by
  simp only [fragment, Bool.or_eq_false_iff, decide_eq_false_iff_not] at h
  exact isPrintable_of_control h.1.1.1.1.1 h.1.1.1.1.2

lemma isPrintable_of_specialQuery (h : specialQuery c = false) : IsPrintable c ∧ c ≠ '#' := by
  simp only [specialQuery, query, Bool.or_eq_false_iff, decide_eq_false_iff_not] at h
  exact ⟨isPrintable_of_control h.1.1.1.1.1.1 h.1.1.1.1.1.2, h.1.1.1.2⟩

lemma isPrintable_of_path (h : path c = false) : IsPrintable c ∧ c ≠ '#' ∧ c ≠ '?' ∧ c ≠ '<' := by
  have hopen : c ≠ '<' := by
    rintro rfl
    exact absurd h (by decide)
  simp only [path, Bool.or_eq_false_iff, decide_eq_false_iff_not] at h
  exact ⟨isPrintable_of_fragment h.1.1.1.1, h.1.1.1.2, h.1.1.2, hopen⟩

lemma path_of_userinfo (h : userinfo c = false) : path c = false := by
  simp only [userinfo, Bool.or_eq_false_iff] at h
  exact h.1.1.1.1.1.1.1.1.1.1

lemma IsEscape.isPrintable (h : IsEscape c) : IsPrintable c := by
  rcases h with rfl | h | h
  · exact ⟨by decide, by decide⟩
  · exact ⟨by omega, by omega⟩
  · exact ⟨by omega, by omega⟩

/-- No digit of an escape is a punctuation mark. -/
lemma IsEscape.ne {d : Char} (h : IsEscape c) (hd : d ≠ '%')
    (hn : ¬(48 ≤ d.toNat ∧ d.toNat ≤ 57)) (hu : ¬(65 ≤ d.toNat ∧ d.toNat ≤ 70)) : c ≠ d := by
  rintro rfl
  rcases h with h | h | h
  · exact hd h
  · exact hn h
  · exact hu h

lemma specialQuery_of_isPrintable (h : IsPrintable c)
    (hne : ∀ d ∈ ['"', '#', '<', '>', '\''], c ≠ d) : specialQuery c = false := by
  obtain ⟨hlow, hhigh⟩ := h
  simp only [specialQuery, query, Bool.or_eq_false_iff, decide_eq_false_iff_not]
  refine ⟨⟨⟨⟨⟨⟨control_eq_false_iff.2 ⟨by omega, by omega⟩, (ne_space_iff (by omega)).2 hlow⟩, ?_⟩,
    ?_⟩, ?_⟩, ?_⟩, ?_⟩ <;>
    exact hne _ (by decide)

lemma IsEscape.specialQuery (h : IsEscape c) : specialQuery c = false := by
  refine specialQuery_of_isPrintable h.isPrintable fun d hd => ?_
  have hall : ∀ d ∈ ['"', '#', '<', '>', '\''],
      d ≠ '%' ∧ ¬(48 ≤ d.toNat ∧ d.toNat ≤ 57) ∧ ¬(65 ≤ d.toNat ∧ d.toNat ≤ 70) :=
    Text.forall_of_all (by decide)
  obtain ⟨hpercent, hdigit, hletter⟩ := hall d hd
  exact h.ne hpercent hdigit hletter

/-- Bytes without percent signs stand for themselves. -/
lemma decode_eq_self {bs : Bytes} (h : 0x25 ∉ bs) : decode bs = bs := by
  induction bs with
  | nil => rw [decode]
  | cons b bs ih =>
    rw [List.mem_cons, not_or] at h
    rw [decode, ih h.2]
    rintro _ _ _ rfl
    exact absurd rfl h.1

end Percent

namespace Form

/-- A form-encoded text holds marks that stand for themselves, plus signs and escapes. -/
theorem mem_encode {t : Text} {c : Char} (h : c ∈ encode t) :
    isPlain c = true ∨ c = '+' ∨ Percent.IsEscape c := by
  obtain ⟨d, _, hc⟩ := List.mem_flatMap.1 h
  unfold char at hc
  by_cases hd : d = ' '
  · rw [if_pos hd, List.mem_singleton] at hc
    exact .inr (.inl hc)
  · rw [if_neg hd, ← List.append_nil (Percent.char _ d)] at hc
    rcases Percent.mem_encode (t := [d]) hc with h | h
    · exact .inl (by simpa using h.2)
    · exact .inr (.inr h)

end Form

end AffiliateLinks
