import AffiliateLinks.Proofs.FormPairs
import AffiliateLinks.Proofs.Numerals
import Mathlib.Data.List.Basic

/-!
# Form encoding undone

A form-encoded text is written byte by byte, with marks that stand for themselves, plus signs and
escapes, and no other text is written the same way. The serializer of forms has the asterisk where
this library has the tilde; with both put right in what it wrote, the two encodings are the same.
-/

namespace AffiliateLinks

namespace Utf8

lemma encodeChar_ascii {c : Char} (h : c.toNat < 0x80) :
    String.utf8EncodeChar c = [UInt8.ofNat c.toNat] := by
  have h : c.val.toNat ≤ 127 := Nat.le_of_lt_succ h
  unfold String.utf8EncodeChar
  exact if_pos h

lemma charOfNat_toNat_ofNat {c : Char} (h : c.toNat < 0x80) :
    Char.ofNat (UInt8.ofNat c.toNat).toNat = c := by
  rw [toNat_ofNat (by omega), Char.ofNat_toNat]

lemma toNat_charOfNat_toNat (b : UInt8) : (Char.ofNat b.toNat).toNat = b.toNat := by
  have hb : b.toNat < 256 := b.toNat_lt
  rw [toNat_charOfNat, if_pos (.inl (by omega))]

lemma toNat_eq_of_charOfNat {b : UInt8} {c : Char} (h : Char.ofNat b.toNat = c) :
    b.toNat = c.toNat := by
  rw [← h, toNat_charOfNat_toNat]

/-- Every byte of a character outside ASCII is outside ASCII. -/
lemma le_of_mem_encodeChar {b : UInt8} {c : Char} (h : b ∈ String.utf8EncodeChar c)
    (hc : 0x80 ≤ c.toNat) : 0x80 ≤ b.toNat := by
  rw [← Nat.not_lt]
  intro hb
  have heq : b.toNat = c.toNat := toNat_eq_of_mem_char h hb
  omega

end Utf8

namespace Percent

/-- The digits of escapes. -/
def IsUpperHexDigit (c : Char) : Prop :=
  48 ≤ c.toNat ∧ c.toNat ≤ 57 ∨ 65 ≤ c.toNat ∧ c.toNat ≤ 70

instance (c : Char) : Decidable (IsUpperHexDigit c) := inferInstanceAs (Decidable (_ ∨ _))

/-- The digit of an escape, with the value that it is read as. -/
lemma upper_digit {n : Nat} (h : n < 16) :
    IsUpperHexDigit (Numeral.digit n).toUpper ∧
      Numeral.digitValue? (Numeral.digit n).toUpper = some n := by
  have hall : ∀ n < 16, IsUpperHexDigit (Numeral.digit n).toUpper ∧
      Numeral.digitValue? (Numeral.digit n).toUpper = some n := by decide
  exact hall n h

lemma byte_eq (b : UInt8) : byte b =
    ['%', (Numeral.digit (b.toNat / 16)).toUpper, (Numeral.digit (b.toNat % 16)).toUpper] := rfl

lemma decode_cons_of_ne {b : UInt8} (h : b ≠ 0x25) (bs : Bytes) : decode (b :: bs) = b :: decode bs := by
  rw [decode]
  rintro _ _ _ rfl
  exact absurd rfl h

lemma IsUpperHexDigit.lt {c : Char} (h : IsUpperHexDigit c) : c.toNat < 0x80 := by
  unfold IsUpperHexDigit at h
  omega

lemma IsUpperHexDigit.ne {c d : Char} (h : IsUpperHexDigit c) (hd : ¬IsUpperHexDigit d) : c ≠ d := by
  rintro rfl
  exact hd h

/-- An escape stands for its byte. -/
lemma decode_byte (b : UInt8) (bs : Bytes) : decode (Utf8.encode (byte b) ++ bs) = b :: decode bs := by
  have hb : b.toNat < 256 := b.toNat_lt
  obtain ⟨hhigh, hhigh'⟩ := upper_digit (n := b.toNat / 16) (by omega)
  obtain ⟨hlow, hlow'⟩ := upper_digit (n := b.toNat % 16) (by omega)
  have hencode : Utf8.encode (byte b) = [0x25, UInt8.ofNat (Numeral.digit (b.toNat / 16)).toUpper.toNat,
      UInt8.ofNat (Numeral.digit (b.toNat % 16)).toUpper.toNat] := by
    rw [byte_eq, Utf8.encode, List.flatMap_cons, List.flatMap_cons, List.flatMap_singleton,
      Utf8.encodeChar_ascii hhigh.lt, Utf8.encodeChar_ascii hlow.lt]
    rfl
  rw [hencode, List.cons_append, List.cons_append, List.singleton_append, decode,
    Utf8.charOfNat_toNat_ofNat hhigh.lt, Utf8.charOfNat_toNat_ofNat hlow.lt, hhigh', hlow']
  change (if _ ∧ _ then _ else _) = _
  rw [if_pos ⟨by omega, by omega⟩, Nat.div_add_mod', UInt8.ofNat_toNat]

end Percent

namespace Form

/-- What is written for a byte. -/
def byteText (b : UInt8) : Text :=
  if isPlain (Char.ofNat b.toNat) then [Char.ofNat b.toNat]
  else if b = 0x20 then ['+']
  else Percent.byte b

lemma isPrintable_of_isPlain {c : Char} (h : isPlain c = true) : IsPrintable c := by
  simp only [isPlain, Bool.or_eq_true, decide_eq_true_eq] at h
  rcases h with (((h | rfl) | rfl) | rfl) | rfl
  · have hbounds := Ascii.isAlphanum_iff.1 h
    exact ⟨by omega, by omega⟩
  · exact ⟨by decide, by decide⟩
  · exact ⟨by decide, by decide⟩
  · exact ⟨by decide, by decide⟩
  · exact ⟨by decide, by decide⟩

lemma isPlain_bounds {c : Char} (h : isPlain c = true) :
    c.toNat < 0x80 ∧ c ≠ '+' ∧ c ≠ '%' := by
  have hne {d : Char} (hd : isPlain d = false) : c ≠ d := by
    rintro rfl
    exact Bool.false_ne_true (hd.symm.trans h)
  exact ⟨Nat.lt_succ_of_lt (isPrintable_of_isPlain h).2, hne (by decide), hne (by decide)⟩

lemma byteText_of_le {b : UInt8} (h : 0x80 ≤ b.toNat) : byteText b = Percent.byte b := by
  have hplain : isPlain (Char.ofNat b.toNat) = false := by
    rw [← Bool.not_eq_true]
    intro hp
    have hlt := (isPlain_bounds hp).1
    rw [Utf8.toNat_charOfNat_toNat] at hlt
    omega
  have hspace : b ≠ 0x20 := by
    rintro rfl
    exact absurd h (by decide)
  rw [byteText, hplain, if_neg Bool.false_ne_true, if_neg hspace]

lemma char_eq (c : Char) : char c = (String.utf8EncodeChar c).flatMap byteText := by
  by_cases hc : c.toNat < 0x80
  · rw [Utf8.encodeChar_ascii hc, List.flatMap_singleton, byteText, Utf8.charOfNat_toNat_ofNat hc, char]
    by_cases hspace : c = ' '
    · subst hspace
      rfl
    · have hbyte : UInt8.ofNat c.toNat ≠ 0x20 := by
        intro h
        apply hspace
        rw [← Utf8.charOfNat_toNat_ofNat hc, h]
        rfl
      rw [if_neg hspace, if_neg hbyte, Percent.char, Utf8.encodeChar_ascii hc, List.flatMap_singleton]
      cases isPlain c with
      | true => rfl
      | false => rfl
  · have hlarge : 0x80 ≤ c.toNat := Nat.le_of_not_lt hc
    have hplain : isPlain c = false := by
      rw [← Bool.not_eq_true]
      exact fun h => hc (isPlain_bounds h).1
    have hspace : c ≠ ' ' := by
      rintro rfl
      exact absurd hlarge (by decide)
    rw [char, if_neg hspace, Percent.char, hplain, if_pos (Bool.not_false)]
    exact (List.flatMap_congr fun b hb => byteText_of_le (Utf8.le_of_mem_encodeChar hb hlarge)).symm

/-- A text is encoded by its bytes. -/
theorem encode_eq (t : Text) : encode t = (Utf8.encode t).flatMap byteText := by
  rw [encode, Utf8.encode, List.flatMap_assoc]
  exact List.flatMap_congr fun c _ => char_eq c

/-- The bytes that an encoded text stands for. -/
def bytes (t : Text) : Bytes := Percent.decode (Utf8.encode (t.map fun c => if c = '+' then ' ' else c))

lemma decode_eq (t : Text) : decode t = Utf8.decodeLossy (bytes t) := rfl

lemma bytes_byteText (b : UInt8) (t : Text) : bytes (byteText b ++ t) = b :: bytes t := by
  have hb : b.toNat < 256 := b.toNat_lt
  unfold byteText
  split
  · next hplain =>
    obtain ⟨hlt, hplus, hpercent⟩ := isPlain_bounds hplain
    have hne : b ≠ 0x25 := by
      rintro rfl
      exact hpercent rfl
    rw [bytes, List.singleton_append, List.map_cons, if_neg hplus, Utf8.encode, List.flatMap_cons,
      Utf8.encodeChar_ascii hlt, Utf8.toNat_charOfNat_toNat, UInt8.ofNat_toNat, List.singleton_append,
      Percent.decode_cons_of_ne hne]
    rfl
  · split
    · next hspace =>
      rw [hspace]
      exact Percent.decode_cons_of_ne (by decide) _
    · have hmap : (Percent.byte b).map (fun c => if c = '+' then ' ' else c) = Percent.byte b := by
        rw [Percent.byte_eq, List.map_cons, List.map_cons, List.map_singleton, if_neg (by decide),
          if_neg ((Percent.upper_digit (by omega)).1.ne (by decide)),
          if_neg ((Percent.upper_digit (by omega)).1.ne (by decide))]
      rw [bytes, List.map_append, hmap, Utf8.encode, List.flatMap_append]
      exact Percent.decode_byte b _

lemma bytes_flatMap_byteText (bs : Bytes) : bytes (bs.flatMap byteText) = bs := by
  induction bs with
  | nil => exact Percent.decode_eq_self List.not_mem_nil
  | cons b bs ih => rw [List.flatMap_cons, bytes_byteText, ih]

/-- An encoded text stands for the text that was encoded. -/
theorem decode_encode (t : Text) : decode (encode t) = t := by
  rw [decode_eq, encode_eq, bytes_flatMap_byteText, Utf8.decodeLossy_encode]

theorem encode_injective {s t : Text} (h : encode s = encode t) : s = t := by
  rw [← decode_encode s, h, decode_encode]

/-- Marks that stand for themselves, plus signs, and escapes with digits in upper case. -/
inductive IsEncoded : Text → Prop
  | nil : IsEncoded []
  | plain {c : Char} {t : Text} (hc : isPlain c = true) (ht : IsEncoded t) : IsEncoded (c :: t)
  | plus {t : Text} (ht : IsEncoded t) : IsEncoded ('+' :: t)
  | escape {high low : Char} {t : Text} (hhigh : Percent.IsUpperHexDigit high)
      (hlow : Percent.IsUpperHexDigit low) (ht : IsEncoded t) : IsEncoded ('%' :: high :: low :: t)

lemma IsEncoded.byteText {t : Text} (h : IsEncoded t) (b : UInt8) : IsEncoded (byteText b ++ t) := by
  have hb : b.toNat < 256 := b.toNat_lt
  unfold Form.byteText
  split
  · next hplain => exact .plain hplain h
  · split
    · exact .plus h
    · exact .escape (Percent.upper_digit (by omega)).1 (Percent.upper_digit (by omega)).1 h

theorem isEncoded_encode (t : Text) : IsEncoded (encode t) := by
  rw [encode_eq]
  induction Utf8.encode t with
  | nil => exact .nil
  | cons b bs ih => exact ih.byteText b

/-- The marks that the serializer leaves as they are. -/
def isSerialMark (c : Char) : Bool := c.isAlphanum || c = '*' || c = '-' || c = '.' || c = '_'

/-- What the serializer writes for a byte. -/
def serialByte (b : UInt8) : Text :=
  if isSerialMark (Char.ofNat b.toNat) then [Char.ofNat b.toNat]
  else if b = 0x20 then ['+']
  else Percent.byte b

def serialize (bs : Bytes) : Text := bs.flatMap serialByte

/-- Shows the tilde in place of its escape, from left to right. -/
def showTildes : Text → Text
  | '%' :: '7' :: 'E' :: t => '~' :: showTildes t
  | c :: t => c :: showTildes t
  | [] => []

/-- What the serializer wrote, with the asterisk escaped and the tilde shown. -/
def corrected (t : Text) : Text := showTildes (Text.replace '*' "%2A".toList t)

lemma showTildes_cons_of_ne {c : Char} (h : c ≠ '%') (t : Text) :
    showTildes (c :: t) = c :: showTildes t := by
  rw [showTildes]
  rintro _ rfl
  exact absurd rfl h

/-- Only the escape of the tilde is one, wherever it may seem to stand. -/
lemma showTildes_byte {b : UInt8} (h : b ≠ 0x7E) (t : Text) :
    showTildes (Percent.byte b ++ t) = Percent.byte b ++ showTildes t := by
  have hb : b.toNat < 256 := b.toNat_lt
  obtain ⟨hhigh, hhigh'⟩ := Percent.upper_digit (n := b.toNat / 16) (by omega)
  obtain ⟨hlow, hlow'⟩ := Percent.upper_digit (n := b.toNat % 16) (by omega)
  have htilde (hseven : (Numeral.digit (b.toNat / 16)).toUpper = '7')
      (he : (Numeral.digit (b.toNat % 16)).toUpper = 'E') : False := by
    rw [hseven] at hhigh'
    rw [he] at hlow'
    have hseven : 7 = b.toNat / 16 := Option.some.inj hhigh'
    have he : 14 = b.toNat % 16 := Option.some.inj hlow'
    apply h
    apply UInt8.toNat_inj.1
    change b.toNat = 126
    omega
  rw [Percent.byte_eq, List.cons_append, List.cons_append, List.singleton_append, showTildes,
    showTildes_cons_of_ne (hhigh.ne (by decide)), showTildes_cons_of_ne (hlow.ne (by decide))]
  · rfl
  · intro _ _ heq
    exact htilde (List.cons.inj heq).1 (List.cons.inj (List.cons.inj heq).2).1

lemma corrected_cons {c : Char} (hstar : c ≠ '*') (hpercent : c ≠ '%') (t : Text) :
    corrected (c :: t) = c :: corrected t := by
  rw [corrected, Text.replace, List.flatMap_cons, if_neg hstar]
  exact showTildes_cons_of_ne hpercent _

lemma corrected_byte {b : UInt8} (h : b ≠ 0x7E) (t : Text) :
    corrected (Percent.byte b ++ t) = Percent.byte b ++ corrected t := by
  have hb : b.toNat < 256 := b.toNat_lt
  have hreplace : Text.replace '*' "%2A".toList (Percent.byte b) = Percent.byte b := by
    rw [Percent.byte_eq, Text.replace, List.flatMap_cons, List.flatMap_cons, List.flatMap_singleton,
      if_neg (by decide), if_neg ((Percent.upper_digit (by omega)).1.ne (by decide)),
      if_neg ((Percent.upper_digit (by omega)).1.ne (by decide))]
    rfl
  rw [corrected, Text.replace, List.flatMap_append]
  change showTildes (Text.replace _ _ _ ++ _) = _
  rw [hreplace, showTildes_byte h]
  rfl

/-- What the serializer writes for a byte is corrected apart from what it writes after it. -/
lemma corrected_serialByte (b : UInt8) (t : Text) :
    corrected (serialByte b ++ t) = byteText b ++ corrected t := by
  unfold serialByte
  split
  · next hmark =>
    by_cases hstar : Char.ofNat b.toNat = '*'
    · obtain rfl : b = 0x2A := UInt8.toNat_inj.1 (Utf8.toNat_eq_of_charOfNat hstar)
      -- the asterisk is put right by an escape, which is left as it is
      exact showTildes_byte (b := 0x2A) (by decide) _
    · have hplain : isPlain (Char.ofNat b.toNat) = true := by
        simp only [isSerialMark, isPlain, Bool.or_eq_true, decide_eq_true_eq] at hmark ⊢
        tauto
      rw [byteText, if_pos hplain, List.singleton_append,
        corrected_cons hstar (isPlain_bounds hplain).2.2, List.singleton_append]
  · next hmark =>
    split
    · next hspace =>
      rw [hspace]
      exact corrected_cons (by decide) (by decide) t
    · next hspace =>
      by_cases htilde : b = 0x7E
      · subst htilde
        rfl
      · have hplain : isPlain (Char.ofNat b.toNat) = false := by
          rw [← Bool.not_eq_true]
          intro hplain
          apply hmark
          have hne : Char.ofNat b.toNat ≠ '~' := fun heq =>
            htilde (UInt8.toNat_inj.1 (Utf8.toNat_eq_of_charOfNat heq))
          simp only [isSerialMark, isPlain, Bool.or_eq_true, decide_eq_true_eq] at hplain ⊢
          tauto
        rw [corrected_byte htilde, byteText, hplain, if_neg Bool.false_ne_true, if_neg hspace]

/-- The corrected text of the serializer is the encoded text. -/
theorem corrected_serialize (t : Text) : corrected (serialize (Utf8.encode t)) = encode t := by
  rw [encode_eq, serialize]
  induction Utf8.encode t with
  | nil => rfl
  | cons b bs ih => rw [List.flatMap_cons, List.flatMap_cons, corrected_serialByte, ih]

end Form

end AffiliateLinks
