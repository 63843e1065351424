import AffiliateLinks.Proofs.Cutting
import AffiliateLinks.Proofs.PercentEncoding
import AffiliateLinks.Proofs.Steps
import AffiliateLinks.Url.Host

/-!
# The characters of a host

A host of a web scheme is written in printable ASCII and without the characters that delimit the
parts of a URL, whatever script its labels are in and whatever way it was spelled. Quotes are not
among the characters that a host may not hold.
-/

namespace AffiliateLinks

/-- A printable character that may stand before the query of a URL. -/
def IsFrontChar (c : Char) : Prop := IsPrintable c ∧ c ≠ '#' ∧ c ≠ '?' ∧ c ≠ '<'

lemma IsFrontChar.of_bounds {c : Char} (hlow : 0x24 ≤ c.toNat) (hhigh : c.toNat ≤ 0x7E)
    (hc : c.toNat ≠ 0x3F ∧ c.toNat ≠ 0x3C) : IsFrontChar c := by
  refine ⟨⟨by omega, by omega⟩, ?_, ?_, ?_⟩
  · rintro rfl
    exact absurd hlow (by decide)
  · rintro rfl
    exact hc.1 rfl
  · rintro rfl
    exact hc.2 rfl

namespace Numeral

lemma mem_write {base n : Nat} {c : Char} (hb : 2 ≤ base) (h : c ∈ write base n) :
    ∃ k < base, c = digit k := by
  induction n using write.induct base with
  | case1 n hn =>
    rw [write, if_pos hn, List.mem_singleton] at h
    exact ⟨n, by omega, h⟩
  | case2 n hn ih =>
    rw [write, if_neg hn, List.mem_append, List.mem_singleton] at h
    rcases h with h | h
    · exact ih h
    · exact ⟨n % base, Nat.mod_lt _ (by omega), h⟩

/-- The digits of a numeral in a base up to sixteen are figures and small letters. -/
theorem bounds_of_mem_write {base n : Nat} {c : Char} (hlow : 2 ≤ base) (hhigh : base ≤ 16)
    (h : c ∈ write base n) : 48 ≤ c.toNat ∧ c.toNat ≤ 57 ∨ 97 ≤ c.toNat ∧ c.toNat ≤ 102 := by
  obtain ⟨k, hk, rfl⟩ := mem_write hlow h
  have hall : ∀ k < 16, 48 ≤ (digit k).toNat ∧ (digit k).toNat ≤ 57 ∨
      97 ≤ (digit k).toNat ∧ (digit k).toNat ≤ 102 := by decide
  exact hall k (by omega)

lemma isFrontChar_of_mem_write {base n : Nat} {c : Char} (hlow : 2 ≤ base) (hhigh : base ≤ 16)
    (h : c ∈ write base n) : IsFrontChar c := by
  have hb := bounds_of_mem_write hlow hhigh h
  exact .of_bounds (by omega) (by omega) (by omega)

end Numeral

namespace Punycode

/-- A digit of Punycode: a small letter or a figure. -/
def IsDigit (c : Char) : Prop := 97 ≤ c.toNat ∧ c.toNat ≤ 122 ∨ 48 ≤ c.toNat ∧ c.toNat ≤ 57

lemma isDigit_digit {n : Nat} (h : n < 36) : IsDigit (digit n) := by
  have hall : ∀ n < 36, 97 ≤ (digit n).toNat ∧ (digit n).toNat ≤ 122 ∨
      48 ≤ (digit n).toNat ∧ (digit n).toNat ≤ 57 := by decide
  exact hall n h

lemma isDigit_of_mem_writeNumeral {bias place q : Nat} {c : Char}
    (h : c ∈ writeNumeral bias place q) : IsDigit c := by
  induction place, q using writeNumeral.induct bias with
  | case1 place q t hq =>
    obtain ⟨_, ht⟩ := threshold_bounds bias place
    rw [writeNumeral, if_pos hq, List.mem_singleton] at h
    subst h
    exact isDigit_digit (by omega)
  | case2 place q t hq ih =>
    obtain ⟨_, ht⟩ := threshold_bounds bias place
    rw [writeNumeral, if_neg hq, List.mem_cons] at h
    rcases h with rfl | h
    · have hmod := Nat.mod_lt (q - threshold bias place)
        (show 0 < 36 - threshold bias place by omega)
      exact isDigit_digit (by omega)
    · exact ih h

/-- Everything that was written so far is digits. -/
def Progress.WritesDigits (p : Progress) : Prop := ∀ c ∈ p.written, IsDigit c

lemma Progress.WritesDigits.visit {p : Progress} (h : p.WritesDigits) (basicCount m : Nat)
    (c : Char) : (Punycode.visit basicCount m p c).WritesDigits := by
  unfold Punycode.visit
  split
  · exact h
  · split
    · intro d hd
      rcases List.mem_append.1 hd with hd | hd
      · exact h d hd
      · exact isDigit_of_mem_writeNumeral hd
    · exact h

lemma Progress.WritesDigits.foldl_visit {p : Progress} (h : p.WritesDigits) (basicCount m : Nat)
    (label : Text) : (label.foldl (Punycode.visit basicCount m) p).WritesDigits := by
  induction label generalizing p with
  | nil => exact h
  | cons c label ih => exact ih (h.visit basicCount m c)

lemma Progress.WritesDigits.insertAll {p : Progress} (h : p.WritesDigits) (label : Text)
    (basicCount n : Nat) (ms : List Nat) :
    (Punycode.insertAll label basicCount n ms p).WritesDigits := by
  induction ms generalizing n p with
  | nil => exact h
  | cons m ms ih =>
    have hstart : Progress.WritesDigits { p with delta := p.delta + (m - n) * (p.placed + 1) } := h
    have hvisited := hstart.foldl_visit basicCount m label
    rw [Punycode.insertAll]
    refine ih ?_ (m + 1)
    exact hvisited

/-- An encoded label holds ASCII characters of the label, hyphens and digits. -/
theorem mem_encode {label : Text} {c : Char} (h : c ∈ encode label) :
    (c ∈ label ∧ isAscii c = true) ∨ c = '-' ∨ IsDigit c := by
  have hbasic {d : Char} (hd : d ∈ label.filter isAscii) : d ∈ label ∧ isAscii d = true :=
    List.mem_filter.1 hd
  unfold encode at h
  rcases List.mem_append.1 h with h | h
  · split at h
    · cases h
    · rcases List.mem_append.1 h with h | h
      · exact .inl (hbasic h)
      · exact .inr (.inl (List.mem_singleton.1 h))
  · refine .inr (.inr (Progress.WritesDigits.insertAll ?_ label _ _ _ c h))
    intro d hd
    cases hd

end Punycode

namespace Idna

lemma isFrontChar_of_not_isForbidden {c : Char} (h : isForbidden c = false)
    (ha : c.toNat < 0x80) : IsFrontChar c := by
  simp only [isForbidden, Bool.or_eq_false_iff, decide_eq_false_iff_not] at h
  obtain ⟨⟨hlow, hdel⟩, hmarks⟩ := h
  have hne {d : Char} (hd : d ∈ "#%/:<>?@[\\]^|".toList) : c ≠ d := by
    rintro rfl
    rw [List.contains_eq_mem, decide_eq_false_iff_not] at hmarks
    exact hmarks hd
  have hdel' : c.toNat ≠ 0x7F := fun hn => hdel (Ascii.eq_of_toNat_eq hn)
  exact ⟨⟨by omega, by omega⟩, hne (by decide), hne (by decide), hne (by decide)⟩

lemma isFrontChar_of_mem_labels? {label : Text} {pair : Text × Text} {c : Char}
    (h : labels? label = some pair) (hlabel : ∀ c ∈ label, isForbidden c = false)
    (hc : c ∈ pair.1) : IsFrontChar c := by
  unfold labels? at h
  split at h
  · next hascii =>
    obtain ⟨u, _, rfl⟩ := Option.map_eq_some_iff.1 h
    have hall := List.all_eq_true.1 hascii c hc
    exact isFrontChar_of_not_isForbidden (hlabel c hc) (by simpa [Punycode.isAscii] using hall)
  · split at h
    · cases h
      rcases List.mem_append.1 hc with hc | hc
      · have hmarker : ∀ c ∈ marker, 0x24 ≤ c.toNat ∧ c.toNat ≤ 0x7E ∧ c.toNat ≠ 0x3F ∧ c.toNat ≠ 0x3C :=
          Text.forall_of_all (by decide)
        obtain ⟨hlow, hhigh, hne⟩ := hmarker c hc
        exact .of_bounds hlow hhigh hne
      · rcases Punycode.mem_encode hc with ⟨hm, hascii⟩ | rfl | hd
        · exact isFrontChar_of_not_isForbidden (hlabel c hm) (by simpa [Punycode.isAscii] using hascii)
        · exact .of_bounds (by decide) (by decide) (by decide)
        · unfold Punycode.IsDigit at hd
          exact .of_bounds (by omega) (by omega) (by omega)
    · cases h

/-- What becomes of a host once its characters are mapped. -/
def hostOfMapped? (mapped : Text) : Option Text :=
  if mapped.any isForbidden then none
  else ((Text.split '.' mapped).mapM labels?).bind fun labels =>
    if directed (labels.map Prod.snd) then some (Text.join '.' (labels.map Prod.fst)) else none

lemma hostOfText?_eq (host : Text) : hostOfText? host =
    (if isAscii host then some (Text.lower host) else normalize? host).bind hostOfMapped? := by
  have hstep (mapped : Text) : (do
      if mapped.any isForbidden then none
      let labels ← (Text.split '.' mapped).mapM labels?
      if !directed (labels.map Prod.snd) then none
      return Text.join '.' (labels.map Prod.fst)) = hostOfMapped? mapped := by
    unfold hostOfMapped?
    by_cases hf : mapped.any isForbidden = true
    · rw [if_pos hf, if_pos hf]
      rfl
    · rw [if_neg hf, if_neg hf]
      refine congrArg (Option.bind ((Text.split '.' mapped).mapM labels?)) (funext fun labels => ?_)
      cases directed (labels.map Prod.snd) <;> rfl
  unfold hostOfText?
  by_cases ha : isAscii host = true
  · rw [if_pos ha, if_pos ha]
    exact hstep _
  · rw [if_neg ha, if_neg ha, ← funext hstep]
    rfl

lemma isFrontChar_of_mem_hostOfMapped? {mapped d : Text} {c : Char}
    (h : hostOfMapped? mapped = some d) (hc : c ∈ d) : IsFrontChar c := by
  unfold hostOfMapped? at h
  by_cases hf : mapped.any isForbidden = true
  · rw [if_pos hf] at h
    cases h
  · rw [if_neg hf] at h
    have hallowed : ∀ c ∈ mapped, isForbidden c = false := by
      intro c hc
      rw [List.any_eq_true] at hf
      cases hb : isForbidden c with
      | false => rfl
      | true => exact absurd ⟨c, hc, hb⟩ hf
    obtain ⟨labels, hlabels, h⟩ := Option.bind_eq_some_iff.1 h
    split at h
    · cases h
      rcases Text.mem_join hc with rfl | ⟨text, htext, hc⟩
      · exact .of_bounds (by decide) (by decide) (by decide)
      · obtain ⟨pair, hpair, rfl⟩ := List.mem_map.1 htext
        obtain ⟨label, hlabel, hread⟩ := mem_of_mapM_eq_some hlabels hpair
        refine isFrontChar_of_mem_labels? hread (fun c hc => ?_) hc
        exact hallowed c (Text.mem_of_mem_split hlabel hc).1
    · cases h

theorem isFrontChar_of_mem_host? {bytes : Bytes} {d : Text} {c : Char}
    (h : host? bytes = some d) (hc : c ∈ d) : IsFrontChar c := by
  obtain ⟨host, _, h⟩ := Option.bind_eq_some_iff.1 h
  rw [hostOfText?_eq] at h
  obtain ⟨mapped, _, h⟩ := Option.bind_eq_some_iff.1 h
  exact isFrontChar_of_mem_hostOfMapped? h hc

end Idna

namespace Ipv4

lemma isFrontChar_of_mem_write {address : Nat} {c : Char} (h : c ∈ write address) :
    IsFrontChar c := by
  rcases Text.mem_join h with rfl | ⟨part, hpart, hc⟩
  · exact .of_bounds (by decide) (by decide) (by decide)
  · obtain ⟨i, _, rfl⟩ := List.mem_map.1 hpart
    exact Numeral.isFrontChar_of_mem_write (by omega) (by omega) hc

end Ipv4

namespace Ipv6

lemma isFrontChar_of_mem_joined {ps : List Nat} {c : Char} (h : c ∈ joined ps) :
    IsFrontChar c := by
  rcases Text.mem_join h with rfl | ⟨piece, hpiece, hc⟩
  · exact .of_bounds (by decide) (by decide) (by decide)
  · obtain ⟨n, _, rfl⟩ := List.mem_map.1 hpiece
    exact Numeral.isFrontChar_of_mem_write (by omega) (by omega) hc

lemma isFrontChar_of_mem_write {ps : List Nat} {c : Char} (h : c ∈ write ps) : IsFrontChar c := by
  unfold write at h
  dsimp only at h
  split at h
  · exact isFrontChar_of_mem_joined h
  · rw [List.mem_append, List.mem_append] at h
    rcases h with (h | h) | h
    · exact isFrontChar_of_mem_joined h
    · have hcolon : c = ':' := by simpa using h
      subst hcolon
      exact .of_bounds (by decide) (by decide) (by decide)
    · exact isFrontChar_of_mem_joined h

end Ipv6

namespace Host

lemma ofDomain?_eq (t : Text) : ofDomain? t =
    (Idna.host? (Percent.decode (Utf8.encode t))).bind fun d =>
      if d.isEmpty then none
      else if Ipv4.endsInNumber d then (Ipv4.read? d).map .ipv4
      else some (.name d) := by
  refine congrArg (Option.bind (Idna.host? (Percent.decode (Utf8.encode t)))) (funext fun d => ?_)
  by_cases hd : d.isEmpty = true
  · rw [if_pos hd, if_pos hd]
    rfl
  · rw [if_neg hd, if_neg hd]
    by_cases hn : Ipv4.endsInNumber d = true
    · rw [if_pos hn, if_pos hn]
      cases Ipv4.read? d <;> rfl
    · rw [if_neg hn, if_neg hn]
      rfl

/-- A host of a web scheme is written in printable ASCII, and ends neither at a question mark nor at
a number sign. It holds no opening bracket. -/
theorem isFrontChar_of_mem_text {t : Text} {h : Host} {c : Char} (hs : special? t = some h)
    (hc : c ∈ h.text) : IsFrontChar c := by
  unfold special? at hs
  split at hs
  · obtain ⟨inner, _, hs⟩ := Option.bind_eq_some_iff.1 hs
    obtain ⟨ps, _, hs⟩ := Option.bind_eq_some_iff.1 hs
    cases hs
    rw [text, List.cons_append, List.mem_cons, List.mem_append, List.mem_singleton] at hc
    rcases hc with rfl | hc | rfl
    · exact .of_bounds (by decide) (by decide) (by decide)
    · exact Ipv6.isFrontChar_of_mem_write hc
    · exact .of_bounds (by decide) (by decide) (by decide)
  · rw [ofDomain?_eq] at hs
    obtain ⟨d, hd, hs⟩ := Option.bind_eq_some_iff.1 hs
    split at hs
    · cases hs
    · split at hs
      · obtain ⟨address, _, rfl⟩ := Option.map_eq_some_iff.1 hs
        exact Ipv4.isFrontChar_of_mem_write hc
      · cases hs
        exact Idna.isFrontChar_of_mem_host? hd hc

end Host

end AffiliateLinks
