import AffiliateLinks.Proofs.BuiltConfig
import AffiliateLinks.Proofs.Splice

/-!
# References read and written

A text is read in one pass from left to right, with an ampersand for each reference; what a pass
leaves is not read again. A link that held a reference is written with a reference for every
ampersand of its URL, and is read back as this URL.
-/

namespace AffiliateLinks

namespace Ampersand

/-- The spellings of an ampersand, by its name in any case or by its number with any leading zeros. -/
inductive IsReference : Text → Prop
  | named (name : Text) (h : Text.lower name = "amp".toList) : IsReference ('&' :: (name ++ [';']))
  | decimal {zeros : Text} (h : ∀ c ∈ zeros, c = '0') :
      IsReference ('&' :: '#' :: (zeros ++ "38;".toList))
  | hexadecimal {x : Char} {zeros : Text} (hx : x = 'x' ∨ x = 'X') (h : ∀ c ∈ zeros, c = '0') :
      IsReference ('&' :: '#' :: x :: (zeros ++ "26;".toList))

/-- A reference stands somewhere in the text. -/
def HasReference (t : Text) : Prop := ∃ front r back, IsReference r ∧ t = front ++ (r ++ back)

/-- What is read from a text in one pass: an ampersand for each reference, which is passed over whole,
and every other character as it is. -/
inductive Decodes : Text → Text → Prop
  | nil : Decodes [] []
  | reference {r s t : Text} (hr : IsReference r) (h : Decodes s t) : Decodes (r ++ s) ('&' :: t)
  | char {c : Char} {s t : Text} (hc : ∀ r, IsReference r → ¬r <+: c :: s) (h : Decodes s t) :
      Decodes (c :: s) (c :: t)

variable {c : Char} {r s t : Text}

lemma IsReference.exists_cons (h : IsReference r) : ∃ r', r = '&' :: r' ∧ r' ≠ [] := by
  cases h with
  | named h => exact ⟨_, rfl, List.append_ne_nil_of_right_ne_nil _ (List.cons_ne_nil _ _)⟩
  | decimal h => exact ⟨_, rfl, List.cons_ne_nil _ _⟩
  | hexadecimal hx h => exact ⟨_, rfl, List.cons_ne_nil _ _⟩

lemma dropWhile_zeros {zeros : Text} (h : ∀ c ∈ zeros, c = '0') (hc : c ≠ '0') (t : Text) :
    (zeros ++ c :: t).dropWhile (· = '0') = c :: t := by
  rw [List.dropWhile_append_of_pos fun d hd => by simpa using h d hd,
    List.dropWhile_cons_of_neg (by simpa using hc)]

lemma afterReference?_decimal (h : ∀ d ∈ s.head?, d ≠ 'x' ∧ d ≠ 'X') :
    afterReference? ('#' :: s) = Text.after? "38;".toList (s.dropWhile (· = '0')) := by
  cases s with
  | nil => rfl
  | cons d s =>
    obtain ⟨hsmall, hcapital⟩ := h d rfl
    rw [afterReference?]
    · intro r hr
      exact hsmall (List.cons.inj hr).1
    · intro r hr
      exact hcapital (List.cons.inj hr).1

lemma afterReference?_named {a m p : Char} (h : Text.lower [a, m, p] = "amp".toList) (t : Text) :
    afterReference? (a :: m :: p :: ';' :: t) = some t := by
  have ha : a ≠ '#' := by
    rintro rfl
    exact absurd (List.cons.inj h).1 (by decide)
  rw [afterReference?, if_pos h]
  · exact fun he _ => ha he
  · exact fun he _ => ha he
  · exact fun he => ha he

lemma afterReference?_of_isReference (h : IsReference ('&' :: r)) (t : Text) :
    afterReference? (r ++ t) = some t := by
  cases h with
  | @named name h =>
    obtain ⟨a, _, rfl, ha, h⟩ := List.map_eq_cons_iff.1 h
    obtain ⟨m, _, rfl, hm, h⟩ := List.map_eq_cons_iff.1 h
    obtain ⟨p, _, rfl, hp, h⟩ := List.map_eq_cons_iff.1 h
    obtain rfl := List.map_eq_nil_iff.1 h
    apply afterReference?_named
    rw [Text.lower, List.map_cons, List.map_cons, List.map_singleton, ha, hm, hp]
    rfl
  | @decimal zeros h =>
    have hhead : ∀ d ∈ (zeros ++ "38;".toList ++ t).head?, d ≠ 'x' ∧ d ≠ 'X' := by
      cases zeros with
      | nil =>
        rintro _ ⟨⟩
        decide
      | cons d zeros =>
        rintro _ ⟨⟩
        rw [h d List.mem_cons_self]
        decide
    rw [List.cons_append, afterReference?_decimal hhead, List.append_assoc]
    exact (congrArg _ (dropWhile_zeros h (by decide) _)).trans (Text.after?_eq_some_iff.2 rfl)
  | @hexadecimal x zeros hx h =>
    have hread : afterReference? ('#' :: x :: (zeros ++ "26;".toList ++ t)) =
        Text.after? "26;".toList ((zeros ++ "26;".toList ++ t).dropWhile (· = '0')) := by
      rcases hx with rfl | rfl
      · rfl
      · rfl
    rw [List.cons_append, List.cons_append, hread, List.append_assoc]
    exact (congrArg _ (dropWhile_zeros h (by decide) _)).trans (Text.after?_eq_some_iff.2 rfl)

lemma isReference_of_afterReference? (h : afterReference? s = some t) :
    ∃ r, IsReference ('&' :: r) ∧ s = r ++ t := by
  have hzeros (s : Text) : ∀ c ∈ s.takeWhile (· = '0'), c = '0' := fun c hc =>
    of_decide_eq_true (List.all_eq_true.1 List.all_takeWhile c hc)
  have hcut {digits s : Text} (h : Text.after? digits (s.dropWhile (· = '0')) = some t) :
      s = s.takeWhile (· = '0') ++ digits ++ t := by
    rw [List.append_assoc, ← Text.after?_eq_some_iff.1 h, List.takeWhile_append_dropWhile]
  unfold afterReference? at h
  split at h
  · next s =>
    refine ⟨_, .hexadecimal (.inl rfl) (hzeros s), ?_⟩
    rw [List.cons_append, List.cons_append, ← hcut h]
  · next s =>
    refine ⟨_, .hexadecimal (.inr rfl) (hzeros s), ?_⟩
    rw [List.cons_append, List.cons_append, ← hcut h]
  · next s _ _ =>
    refine ⟨_, .decimal (hzeros s), ?_⟩
    rw [List.cons_append, ← hcut h]
  · next a m p s _ _ _ =>
    split at h
    · next hname =>
      cases h
      exact ⟨_, .named _ hname, rfl⟩
    · cases h
  · cases h

lemma decode_cons_of_ne (h : c ≠ '&') (t : Text) : decode (c :: t) = c :: decode t := by
  rw [decode, if_neg h]

lemma decode_reference (h : IsReference r) (s : Text) : decode (r ++ s) = '&' :: decode s := by
  obtain ⟨r, rfl, _⟩ := h.exists_cons
  have hafter := afterReference?_of_isReference h s
  rw [List.cons_append, decode, if_pos rfl]
  split
  · next rest hrest =>
    rw [hafter] at hrest
    rw [Option.some.inj hrest]
  · next hrest =>
    rw [hafter] at hrest
    cases hrest

lemma decode_char (h : ∀ r, IsReference r → ¬r <+: c :: s) : decode (c :: s) = c :: decode s := by
  by_cases hc : c = '&'
  · subst hc
    rw [decode, if_pos rfl]
    split
    · next rest hrest =>
      obtain ⟨r, hr, rfl⟩ := isReference_of_afterReference? hrest
      exact absurd (List.prefix_append ('&' :: r) rest) (h _ hr)
    · rfl
  · exact decode_cons_of_ne hc s

lemma decodes_decode (s : Text) : Decodes s (decode s) := by
  induction s using decode.induct with
  | case1 =>
    rw [decode]
    exact .nil
  | case2 s rest hrest ih =>
    obtain ⟨r, hr, rfl⟩ := isReference_of_afterReference? hrest
    have hdecode : decode ('&' :: (r ++ rest)) = _ := decode_reference hr rest
    rw [hdecode]
    exact .reference hr ih
  | case3 s hnone ih =>
    have hchar : ∀ r, IsReference r → ¬r <+: '&' :: s := by
      rintro r hr ⟨rest, heq⟩
      obtain ⟨r, rfl, _⟩ := hr.exists_cons
      have hs : r ++ rest = s := (List.cons.inj heq).2
      rw [← hs, afterReference?_of_isReference hr] at hnone
      cases hnone
    rw [decode_char hchar]
    exact .char hchar ih
  | case4 c s hc ih =>
    have hchar : ∀ r, IsReference r → ¬r <+: c :: s := by
      rintro r hr ⟨rest, heq⟩
      obtain ⟨r, rfl, _⟩ := hr.exists_cons
      exact hc (List.cons.inj heq).1.symm
    rw [decode_char hchar]
    exact .char hchar ih

theorem decodes_iff : Decodes s t ↔ t = decode s := by
  constructor
  · intro h
    induction h with
    | nil => rw [decode]
    | reference hr _ ih => rw [decode_reference hr, ih]
    | char hc _ ih => rw [decode_char hc, ih]
  · rintro rfl
    exact decodes_decode s

/-- A reference behind a character that begins none. -/
lemma HasReference.of_cons (h : HasReference (c :: s)) (hc : ∀ r, IsReference r → ¬r <+: c :: s) :
    HasReference s := by
  obtain ⟨front, r, back, hr, heq⟩ := h
  cases front with
  | nil => exact absurd ⟨back, heq.symm⟩ (hc r hr)
  | cons d front => exact ⟨front, r, back, hr, (List.cons.inj heq).2⟩

lemma HasReference.cons (h : HasReference s) (c : Char) : HasReference (c :: s) := by
  obtain ⟨front, r, back, hr, rfl⟩ := h
  exact ⟨c :: front, r, back, hr, rfl⟩

/-- Reading makes a text shorter if there is something to read. -/
lemma Decodes.length (h : Decodes s t) :
    t.length ≤ s.length ∧ (HasReference s → t.length < s.length) := by
  induction h with
  | nil =>
    refine ⟨Nat.le_refl 0, ?_⟩
    rintro ⟨front, r, back, hr, heq⟩
    obtain ⟨r, rfl, _⟩ := hr.exists_cons
    simp at heq
  | @reference r s t hr _ ih =>
    obtain ⟨r, rfl, hne⟩ := hr.exists_cons
    have hpos : 0 < r.length := List.length_pos_iff.2 hne
    simp only [List.length_append, List.length_cons]
    exact ⟨by omega, fun _ => by omega⟩
  | char hc _ ih =>
    simp only [List.length_cons]
    exact ⟨by omega, fun h => by have := ih.2 (h.of_cons hc); omega⟩

lemma Decodes.eq_self (h : Decodes s t) (hs : ¬HasReference s) : t = s := by
  induction h with
  | nil => rfl
  | @reference r s t hr _ _ => exact absurd ⟨[], r, s, hr, rfl⟩ hs
  | @char c s t _ _ ih => rw [ih fun h => hs (h.cons c)]

/-- A text is changed by reading it exactly if it has a reference. -/
theorem decode_ne_self_iff : decode s ≠ s ↔ HasReference s := by
  constructor
  · intro hne
    exact Classical.byContradiction fun hs => hne ((decodes_decode s).eq_self hs)
  · intro hs heq
    have hlt := (decodes_decode s).length.2 hs
    rw [heq] at hlt
    exact Nat.lt_irrefl _ hlt

lemma encode_cons_amp (t : Text) : encode ('&' :: t) = '&' :: ("amp;".toList ++ encode t) := rfl

lemma encode_cons_of_ne (h : c ≠ '&') (t : Text) : encode (c :: t) = c :: encode t := by
  rw [encode, Text.replace, List.flatMap_cons, if_neg h]
  rfl

/-- Encoding spells every ampersand, and decoding reads each of them. -/
theorem decode_encode (t : Text) : decode (encode t) = t := by
  induction t with
  | nil => rw [encode, Text.replace, List.flatMap_nil, decode]
  | cons c t ih =>
    by_cases hc : c = '&'
    · subst hc
      have hamp : IsReference "&amp;".toList := .named "amp".toList rfl
      rw [encode_cons_amp, ← List.cons_append]
      exact (decode_reference hamp (encode t)).trans (by rw [ih])
    · rw [encode_cons_of_ne hc, decode_cons_of_ne hc, ih]

lemma suffix_of_suffix_append {w back : Text} (hw : c ∉ w) (h : c :: back <:+ w ++ t) :
    c :: back <:+ t := by
  induction w with
  | nil => exact h
  | cons d w ih =>
    rw [List.mem_cons, not_or] at hw
    rcases List.suffix_cons_iff.1 h with heq | h
    · exact absurd (List.cons.inj heq).1 hw.1
    · exact ih hw.2 h

/-- Every ampersand of an encoded text begins a reference by name. -/
theorem prefix_of_suffix_encode {back : Text} (h : '&' :: back <:+ encode t) :
    "amp;".toList <+: back := by
  induction t with
  | nil => exact absurd (List.suffix_nil.1 h) (List.cons_ne_nil _ _)
  | cons c t ih =>
    by_cases hc : c = '&'
    · subst hc
      rw [encode_cons_amp] at h
      rcases List.suffix_cons_iff.1 h with heq | h
      · exact ⟨encode t, (List.cons.inj heq).2.symm⟩
      · exact ih (suffix_of_suffix_append (by decide) h)
    · rw [encode_cons_of_ne hc] at h
      rcases List.suffix_cons_iff.1 h with heq | h
      · exact absurd (List.cons.inj heq).1.symm hc
      · exact ih h

end Ampersand

namespace Link

/-- A link is routed as the URL that it spells. If the URL is rewritten and the link held a reference,
every ampersand is written by name and the link is read as the rewritten URL; without a reference it
is this URL. A link that is not rewritten is written as it stands. -/
theorem ofMarkup_reads_back (value : Text) (config : Config) (brand : Option Text) :
    let url := Ampersand.decode value
    let meant := (ofUrl url config brand).value
    let written := (ofMarkup value config brand).value
    Ampersand.Decodes value url ∧ written.method = meant.method ∧
    (written.method.isMonetized = true → Ampersand.HasReference value →
      (∀ back, '&' :: back <:+ written.monetized → "amp;".toList <+: back) ∧
        Ampersand.decode written.monetized = meant.monetized) ∧
    (written.method.isMonetized = true → ¬Ampersand.HasReference value →
      written.monetized = meant.monetized) ∧
    (written.method.isMonetized = false → written.monetized = value) := by
  intro url meant written
  refine ⟨Ampersand.decodes_iff.2 rfl, rfl, fun hm href => ?_, fun hm href => ?_,
    monetized_ofMarkup_of_not_isMonetized value config brand⟩
  · have hwritten : written.monetized = Ampersand.encode meant.monetized := by
      rw [monetized_ofMarkup_of_isMonetized _ _ _ hm, if_pos (Ampersand.decode_ne_self_iff.2 href)]
    rw [hwritten]
    exact ⟨fun _ => Ampersand.prefix_of_suffix_encode, Ampersand.decode_encode _⟩
  · rw [monetized_ofMarkup_of_isMonetized _ _ _ hm,
      if_neg (mt Ampersand.decode_ne_self_iff.1 href)]

/-- References of every kind beside a bare ampersand and one that is spelled twice. -/
theorem ofMarkup_reads_back_mixed :
    let value := "https://amazon.com/?a&AMP;b&#0038;c&#X26;d&e&amp;amp;f".toList
    let written := (ofMarkup value (.ofTag "site-20".toList) none).value
    written.method.isMonetized = true ∧ Ampersand.HasReference value ∧
      Ampersand.decode written.monetized =
        "https://amazon.com/?a&b&c&d&e&amp;f&tag=site-20".toList ∧
      written.monetized =
        "https://amazon.com/?a&amp;b&amp;c&amp;d&amp;e&amp;amp;f&amp;tag=site-20".toList := by
  intro value written
  have hmethod : written.method.isMonetized = true := by decide +kernel
  have href : Ampersand.HasReference value := by
    refine ⟨"https://amazon.com/?a".toList, "&AMP;".toList, _, ?_, rfl⟩
    exact .named "AMP".toList (by decide)
  obtain ⟨_, _, hread, _⟩ := ofMarkup_reads_back value (.ofTag "site-20".toList) none
  have hmeant : (ofUrl (Ampersand.decode value) (.ofTag "site-20".toList) none).value.monetized =
      "https://amazon.com/?a&b&c&d&e&amp;f&tag=site-20".toList := by decide +kernel
  exact ⟨hmethod, href, (hread hmethod href).2.trans hmeant, by decide +kernel⟩

end Link

end AffiliateLinks
