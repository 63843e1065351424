import AffiliateLinks.Proofs.HostCharacters
import AffiliateLinks.Url.Parse

/-!
# Reading the URLs of the web

A URL of a web scheme is read part by part. Its text is the front, which holds scheme, authority and
path, then the query and the fragment; what the parts hold comes from the text that was read, from
the host, and from the marks and escapes of the written form.
-/

namespace AffiliateLinks

/-- Figures, small letters, and the delimiters in front of the query. -/
def IsFrontMark (c : Char) : Prop :=
  47 ≤ c.toNat ∧ c.toNat ≤ 58 ∨ c.toNat = 64 ∨ 97 ≤ c.toNat ∧ c.toNat ≤ 122

lemma IsFrontMark.isFrontChar {c : Char} (h : IsFrontMark c) : IsFrontChar c := by
  unfold IsFrontMark at h
  exact .of_bounds (by omega) (by omega) (by omega)

lemma Percent.IsEscape.isFrontChar {c : Char} (h : Percent.IsEscape c) : IsFrontChar c := by
  rcases h with rfl | h | h
  · exact .of_bounds (by decide) (by decide) (by decide)
  · exact .of_bounds (by omega) (by omega) (by omega)
  · exact .of_bounds (by omega) (by omega) (by omega)

namespace UrlPath

lemma mem_follow {done raws : List Text} {s : Text} (h : s ∈ follow false done raws) :
    s ∈ done ∨ s = [] ∨ ∃ raw ∈ raws, s = Percent.encode Percent.path raw := by
  induction raws generalizing done with
  | nil => exact .inl (List.mem_reverse.1 h)
  | cons raw raws ih =>
    have hclosing {s : Text} (hs : s ∈ if raws.isEmpty then [[]] else []) : s = [] := by
      split at hs
      · exact List.mem_singleton.1 hs
      · cases hs
    have hpop {s : Text} (hs : s ∈ pop false done) : s ∈ done := by
      cases done with
      | nil => cases hs
      | cons d done => exact List.mem_cons_of_mem d hs
    have hlater (hs : ∃ r ∈ raws, s = Percent.encode Percent.path r) :
        ∃ r ∈ raw :: raws, s = Percent.encode Percent.path r := by
      obtain ⟨r, hr, hs⟩ := hs
      exact ⟨r, List.mem_cons_of_mem _ hr, hs⟩
    rw [follow] at h
    split at h
    · rcases ih h with h | h | h
      · rcases List.mem_append.1 h with h | h
        · exact .inr (.inl (hclosing h))
        · exact .inl (hpop h)
      · exact .inr (.inl h)
      · exact .inr (.inr (hlater h))
    · split at h
      · rcases ih h with h | h | h
        · rcases List.mem_append.1 h with h | h
          · exact .inr (.inl (hclosing h))
          · exact .inl h
        · exact .inr (.inl h)
        · exact .inr (.inr (hlater h))
      · rcases ih h with h | h | h
        · rcases List.mem_cons.1 h with rfl | h
          · exact .inr (.inr ⟨raw, List.mem_cons_self, rfl⟩)
          · exact .inl h
        · exact .inr (.inl h)
        · exact .inr (.inr (hlater h))

theorem mem_text_read {t : Text} {c : Char} (h : c ∈ (read true t).text) :
    c = '/' ∨ (c ∈ t ∧ Percent.path c = false) ∨ Percent.IsEscape c := by
  obtain ⟨s, hs, hc⟩ := List.mem_flatMap.1 h
  rcases List.mem_cons.1 hc with rfl | hc
  · exact .inl rfl
  · rcases mem_follow hs with hs | rfl | ⟨raw, hraw, rfl⟩
    · cases hs
    · cases hc
    · rcases Percent.mem_encode hc with ⟨hc, hset⟩ | hc
      · have hmem := (Text.mem_of_mem_split hraw hc).1
        rw [if_pos rfl] at hmem
        obtain ⟨d, hd, rfl⟩ := List.mem_map.1 hmem
        by_cases hslash : d = '\\'
        · exact .inl (if_pos hslash)
        · rw [if_neg hslash] at hset ⊢
          exact .inr (.inl ⟨hd, hset⟩)
      · exact .inr (.inr hc)

end UrlPath

namespace Authority

lemma cutLastAt?_eq_some_iff {t a b : Text} :
    cutLastAt? t = some (a, b) ↔ t = a ++ '@' :: b ∧ '@' ∉ b := by
  unfold cutLastAt?
  constructor
  · intro h
    obtain ⟨⟨b', a'⟩, hcut, h⟩ := Option.map_eq_some_iff.1 h
    cases h
    obtain ⟨ht, hb⟩ := Text.cut?_eq_some_iff.1 hcut
    refine ⟨?_, fun h => hb (List.mem_reverse.1 h)⟩
    rw [← List.reverse_reverse t, ht]
    simp only [List.reverse_append, List.reverse_cons, List.append_assoc, List.singleton_append]
  · rintro ⟨rfl, hb⟩
    have hcut : Text.cut? '@' (a ++ '@' :: b).reverse = some (b.reverse, a.reverse) := by
      refine Text.cut?_eq_some_iff.2 ⟨?_, fun h => hb (List.mem_reverse.1 h)⟩
      simp only [List.reverse_append, List.reverse_cons, List.append_assoc, List.singleton_append]
    rw [hcut, Option.map_some]
    simp only [List.reverse_reverse]

/-- The parts that the authority of a web scheme is read from. -/
lemma special?_eq_some {scheme t : Text} {a : Authority} (h : special? scheme t = some a) :
    ∃ userinfo hostPort host port, (cutLastAt? t).getD ([], t) = (userinfo, hostPort) ∧
      Host.special? (cutHost false hostPort).1 = some host ∧
      readPort? scheme ((cutHost false hostPort).2.drop 1) = some port ∧
      a = ⟨(readUserinfo userinfo).1, (readUserinfo userinfo).2, host, port⟩ := by
  obtain ⟨host, hhost, h⟩ := Option.bind_eq_some_iff.1 h
  obtain ⟨port, hport, h⟩ := Option.bind_eq_some_iff.1 h
  cases h
  exact ⟨_, _, host, port, rfl, hhost, hport, rfl⟩

lemma mem_userinfo {t userinfo hostPort : Text} {c : Char}
    (h : (cutLastAt? t).getD ([], t) = (userinfo, hostPort)) (hc : c ∈ userinfo) : c ∈ t := by
  cases hcut : cutLastAt? t with
  | none =>
    rw [hcut] at h
    cases h
    cases hc
  | some p =>
    rw [hcut, Option.getD_some] at h
    subst h
    obtain ⟨rfl, _⟩ := cutLastAt?_eq_some_iff.1 hcut
    exact List.mem_append_left _ hc

lemma mem_of_mem_cut?_getD {t : Text} {c : Char}
    (hc : c ∈ ((Text.cut? ':' t).getD (t, [])).1 ∨ c ∈ ((Text.cut? ':' t).getD (t, [])).2) :
    c ∈ t := by
  cases hcut : Text.cut? ':' t with
  | none =>
    rw [hcut, Option.getD_none] at hc
    rcases hc with hc | hc
    · exact hc
    · cases hc
  | some p =>
    obtain ⟨a, b⟩ := p
    obtain ⟨rfl, _⟩ := Text.cut?_eq_some_iff.1 hcut
    rw [hcut, Option.getD_some] at hc
    rcases hc with hc | hc
    · exact List.mem_append_left _ hc
    · exact List.mem_append_right _ (List.mem_cons_of_mem _ hc)

lemma mem_credentials {a : Authority} {c : Char} (h : c ∈ a.credentials) :
    c = ':' ∨ c = '@' ∨ c ∈ a.username ∨ ∃ p, a.password = some p ∧ c ∈ p := by
  obtain ⟨username, password, host, port⟩ := a
  have hmem {p : Text} (hc : c ∈ if username.isEmpty && p.isEmpty then [] else username ++ p ++ ['@']) :
      c ∈ username ∨ c ∈ p ∨ c = '@' := by
    split at hc
    · cases hc
    · rwa [List.mem_append, List.mem_append, List.mem_singleton, or_assoc] at hc
  cases password with
  | none =>
    rcases hmem h with h | h | h
    · exact .inr (.inr (.inl h))
    · cases h
    · exact .inr (.inl h)
  | some p =>
    rcases hmem h with h | h | h
    · exact .inr (.inr (.inl h))
    · rcases List.mem_cons.1 h with h | h
      · exact .inl h
      · exact .inr (.inr (.inr ⟨p, rfl, h⟩))
    · exact .inr (.inl h)

lemma mem_encode_userinfo {t part : Text} {c : Char} (hpart : ∀ d ∈ part, d ∈ t)
    (hc : c ∈ Percent.encode Percent.userinfo part) :
    (c ∈ t ∧ Percent.path c = false) ∨ Percent.IsEscape c := by
  rcases Percent.mem_encode hc with hc | hc
  · exact .inl ⟨hpart c hc.1, Percent.path_of_userinfo hc.2⟩
  · exact .inr hc

lemma mem_readUserinfo {t : Text} {c : Char}
    (hc : c ∈ (readUserinfo t).1 ∨ ∃ p, (readUserinfo t).2 = some p ∧ c ∈ p) :
    (c ∈ t ∧ Percent.path c = false) ∨ Percent.IsEscape c := by
  rcases hc with hc | ⟨p, hp, hc⟩
  · exact mem_encode_userinfo (fun d hd => mem_of_mem_cut?_getD (.inl hd)) hc
  · change (if ((Text.cut? ':' t).getD (t, [])).2.isEmpty then none else _) = some p at hp
    split at hp
    · cases hp
    · cases hp
      exact mem_encode_userinfo (fun d hd => mem_of_mem_cut?_getD (.inr hd)) hc

theorem mem_text {scheme t : Text} {a : Authority} {c : Char} (h : special? scheme t = some a)
    (hc : c ∈ a.text) :
    c ∈ a.host.text ∨ (c ∈ t ∧ Percent.path c = false) ∨ Percent.IsEscape c ∨ IsFrontMark c := by
  obtain ⟨userinfo, hostPort, host, port, hcut, hhost, hport, rfl⟩ := special?_eq_some h
  rw [text, List.mem_append, List.mem_append] at hc
  rcases hc with (hc | hc) | hc
  · rcases mem_credentials hc with rfl | rfl | hc
    · exact .inr (.inr (.inr (.inl (by decide))))
    · exact .inr (.inr (.inr (.inr (.inl (by decide)))))
    · rcases mem_readUserinfo hc with ⟨hc, hset⟩ | hc
      · exact .inr (.inl ⟨mem_userinfo hcut hc, hset⟩)
      · exact .inr (.inr (.inl hc))
  · exact .inl hc
  · cases port with
    | none => cases hc
    | some p =>
      rcases List.mem_cons.1 hc with rfl | hc
      · exact .inr (.inr (.inr (.inl (by decide))))
      · have hdigit := Numeral.bounds_of_mem_write (by omega) (by omega) hc
        refine .inr (.inr (.inr ?_))
        unfold IsFrontMark
        omega

end Authority

end AffiliateLinks
