import AffiliateLinks.Link.Monetize
import AffiliateLinks.Proofs.Cutting
import AffiliateLinks.Proofs.HttpUrl

/-!
# Trimmed and untrimmed texts of links

A link is classified by its trimmed text, where all white space is taken away, and rewritten from the
text as it is, where a URL is read past control characters and spaces only. If a URL is read from the
text of a link that was taken for one of the web, then it is of the scheme that the trimmed text
begins with.
-/

namespace AffiliateLinks

namespace Text

lemma isBlank_of_isPrintable {c : Char} (h : IsPrintable c) : isBlank c = false := by
  cases hb : isBlank c with
  | false => rfl
  | true =>
    have hbounds := isBlank_bounds hb
    unfold IsPrintable at h
    omega

lemma startsWith_iff {p t : Text} : startsWith p t = true ↔ p <+: t := by
  rw [startsWith, Option.isSome_iff_exists]
  constructor
  · rintro ⟨r, h⟩
    exact ⟨r, (after?_eq_some_iff.1 h).symm⟩
  · rintro ⟨r, h⟩
    exact ⟨r, after?_eq_some_iff.2 h.symm⟩

lemma after?_eq_none_iff {p t : Text} : after? p t = none ↔ ¬p <+: t := by
  rw [← startsWith_iff, startsWith]
  simp

end Text

namespace Ascii

/-- A character outside the letters is in lower case only if it was so before. -/
lemma eq_of_toLower_eq {c d : Char} (h : c.toLower = d) (hd : d.toNat < 97 ∨ 122 < d.toNat) :
    c = d := by
  apply eq_of_toNat_eq
  have hn := toNat_toLower c
  rw [h] at hn
  split at hn <;> omega

lemma lt_of_toLower {c : Char} (h : 0x20 < c.toLower.toNat) : 0x20 < c.toNat := by
  rw [toNat_toLower] at h
  split at h <;> omega

lemma utf8Size_of_toLower {c : Char} (h : c.toLower.toNat < 0x80) : c.utf8Size = 1 := by
  rw [toNat_toLower] at h
  rw [Char.utf8Size_eq_one_iff, UInt32.le_iff_toNat_le]
  change c.toNat ≤ 127
  split at h <;> omega

end Ascii

namespace Classification

variable {t p : Text}

lemma prefix_of_firstBytes? {n : Nat} (h : firstBytes? n t = some p) : p <+: t := by
  induction t generalizing n p with
  | nil =>
    cases n with
    | zero =>
      cases h
      exact List.prefix_rfl
    | succ n => cases h
  | cons c t ih =>
    cases n with
    | zero =>
      cases h
      exact List.nil_prefix
    | succ n =>
      rw [firstBytes?] at h
      split at h
      · obtain ⟨p', hp, rfl⟩ := Option.map_eq_some_iff.1 h
        exact List.cons_prefix_cons.2 ⟨rfl, ih hp⟩
      · cases h

lemma firstBytes?_append (hp : ∀ c ∈ p, c.utf8Size = 1) (n : Nat) (t : Text) :
    firstBytes? (p.length + n) (p ++ t) = (firstBytes? n t).map (p ++ ·) := by
  induction p with
  | nil => simp
  | cons c p ih =>
    obtain ⟨hc, hp⟩ := List.forall_mem_cons.1 hp
    have hlen : (c :: p).length + n = p.length + n + 1 := by
      rw [List.length_cons]
      omega
    rw [hlen, List.cons_append, firstBytes?, if_pos (by omega), hc, Nat.add_sub_cancel, ih hp,
      Option.map_map]
    rfl

/-- The beginning that is looked at tells what the whole text begins with. -/
lemma prefix_front_iff {scheme : Text} (hlen : scheme.length ≤ 8)
    (hascii : ∀ c ∈ scheme, c.toNat < 0x80) :
    scheme <+: Text.lower ((firstBytes? 8 t).getD t) ↔ scheme <+: Text.lower t := by
  constructor
  · intro h
    refine h.trans (List.IsPrefix.map _ ?_)
    cases hfirst : firstBytes? 8 t with
    | none => exact List.prefix_rfl
    | some p => exact prefix_of_firstBytes? hfirst
  · rintro ⟨rest, h⟩
    obtain ⟨p, r, rfl, rfl, -⟩ := List.map_eq_append_iff.1 h.symm
    have hsize : ∀ c ∈ p, c.utf8Size = 1 := fun c hc =>
      Ascii.utf8Size_of_toLower (hascii _ (List.mem_map_of_mem hc))
    rw [List.length_map] at hlen
    have hfirst := firstBytes?_append hsize (8 - p.length) r
    rw [Nat.add_sub_cancel' hlen] at hfirst
    apply List.IsPrefix.map
    rw [hfirst]
    cases firstBytes? (8 - p.length) r with
    | none => exact List.prefix_append p r
    | some q => exact List.prefix_append p q

lemma isHttp_iff : isHttp t = true ↔
    "http://".toList <+: Text.lower t ∨ "https://".toList <+: Text.lower t := by
  rw [isHttp, Bool.or_eq_true, Text.startsWith_iff, Text.startsWith_iff,
    prefix_front_iff (by decide) (Text.forall_of_all (by decide)),
    prefix_front_iff (by decide) (Text.forall_of_all (by decide))]

end Classification

namespace Url

/-- A beginning without margin characters stays when the margins are removed. -/
lemma prefix_clean {p : Text} (hne : p ≠ []) (hp : ∀ c ∈ p, 0x20 < c.toNat) (rest : Text) :
    p <+: clean (p ++ rest) := by
  have hfront : (p ++ rest).dropWhile isMargin = p ++ rest := by
    obtain ⟨c, p', rfl⟩ := List.exists_cons_of_ne_nil hne
    have hc := hp c List.mem_cons_self
    rw [List.cons_append, List.dropWhile_cons, if_neg (by simpa using hc)]
  have hback : p <+: ((p ++ rest).reverse.dropWhile isMargin).reverse :=
    Text.prefix_dropEnd (fun c hc => decide_eq_false (by have := hp c hc; omega)) rest
  rw [clean_eq, hfront]
  have hfilter := hback.filter fun c => !isIgnored c
  rwa [filter_isIgnored_eq_self hp] at hfilter

lemma clean_append_of_isMargin {lead : Text} (h : ∀ c ∈ lead, isMargin c = true) (t : Text) :
    clean (lead ++ t) = clean t := by
  have hdrop : (lead ++ t).dropWhile isMargin = t.dropWhile isMargin := by
    rw [List.dropWhile_append_of_pos h]
  rw [clean_eq, clean_eq, hdrop]

/-- A text that begins as one of the web holds a scheme before its first colon. -/
lemma exists_scheme_of_isHttp {t : Text} (h : Classification.isHttp t = true) :
    ∃ s slashes rest, t = s ++ ':' :: slashes ++ rest ∧ ':' ∉ s ∧
      (∀ c ∈ s ++ ':' :: slashes, 0x20 < c.toNat) ∧
      (Text.lower s = "http".toList ∨ Text.lower s = "https".toList) := by
  have hfront : ∃ p rest, t = p ++ rest ∧ ∃ scheme,
      (scheme = "http".toList ∨ scheme = "https".toList) ∧
      Text.lower p = scheme ++ ':' :: "//".toList := by
    rw [Classification.isHttp_iff] at h
    rcases h with ⟨r, h⟩ | ⟨r, h⟩
    · obtain ⟨p, rest, ht, hp, _⟩ := List.map_eq_append_iff.1 h.symm
      exact ⟨p, rest, ht, "http".toList, .inl rfl, hp⟩
    · obtain ⟨p, rest, ht, hp, _⟩ := List.map_eq_append_iff.1 h.symm
      exact ⟨p, rest, ht, "https".toList, .inr rfl, hp⟩
  obtain ⟨p, rest, rfl, scheme, hscheme, hp⟩ := hfront
  have hlow : ∀ c ∈ p, 0x20 < c.toNat := by
    intro c hc
    have hc : c.toLower ∈ scheme ++ ':' :: "//".toList := hp ▸ List.mem_map_of_mem hc
    have hall : ∀ d ∈ scheme ++ ':' :: "//".toList, 0x20 < d.toNat := by
      rcases hscheme with rfl | rfl <;> exact Text.forall_of_all (by decide)
    exact Ascii.lt_of_toLower (hall _ hc)
  obtain ⟨s, marks, rfl, hs, hmarks⟩ := List.map_eq_append_iff.1 hp
  obtain ⟨colon, slashes, rfl, hcolon, _⟩ := List.map_eq_cons_iff.1 hmarks
  obtain rfl := Ascii.eq_of_toLower_eq hcolon (by decide)
  refine ⟨s, slashes, rest, rfl, ?_, hlow, ?_⟩
  · intro hc
    have hc : Char.toLower ':' ∈ scheme := hs ▸ List.mem_map_of_mem hc
    rcases hscheme with rfl | rfl
    · exact absurd hc (by decide)
    · exact absurd hc (by decide)
  · exact hscheme.imp hs.trans hs.trans

/-- The scheme of a text is what comes before its first colon, if that stands before all margins. -/
lemma scheme_eq_of_cutScheme? {s slashes rest scheme after : Text} (hcolon : ':' ∉ s)
    (hlow : ∀ c ∈ s ++ ':' :: slashes, 0x20 < c.toNat)
    (hcut : cutScheme? (clean (s ++ ':' :: slashes ++ rest)) = some (scheme, after)) :
    scheme = Text.lower s := by
  obtain ⟨s', hclean, hcolon', _, rfl⟩ := cutScheme?_eq_some_iff.1 hcut
  obtain ⟨after', hafter⟩ := prefix_clean (by simp) hlow rest
  rw [hclean, List.append_assoc, List.cons_append] at hafter
  have hfirst := Text.cut?_eq_some_iff.2 ⟨hafter.symm, hcolon⟩
  rw [Text.cut?_eq_some_iff.2 ⟨rfl, hcolon'⟩] at hfirst
  obtain ⟨hsame, _⟩ := Prod.mk.inj (Option.some.inj hfirst)
  rw [hsame]

/-- White space that is no margin stays in the text and is no character of a scheme. -/
lemma cutScheme?_of_isBlank {c : Char} (hb : Text.isBlank c = true) (hc : isMargin c = false)
    (t : Text) : cutScheme? (clean (c :: t)) = none := by
  have hlow : 0x20 < c.toNat := by simpa using hc
  have hhigh : 0x85 ≤ c.toNat := by
    rcases Text.isBlank_bounds hb with hb | hb
    · omega
    · exact hb
  cases hcut : cutScheme? (clean (c :: t)) with
  | none => rfl
  | some p =>
    obtain ⟨s, hclean, _, hchars, _⟩ := cutScheme?_eq_some_iff.1 hcut
    obtain ⟨after, hafter⟩ := prefix_clean (p := [c]) (List.cons_ne_nil _ _) (by simpa using hlow) t
    rw [List.singleton_append, List.singleton_append, hclean] at hafter
    rw [Bool.and_eq_true] at hchars
    cases s with
    | nil => exact absurd hchars.1 (by decide)
    | cons d s =>
      rw [List.cons_append] at hafter
      obtain ⟨rfl, _⟩ := List.cons.inj hafter
      have halpha := Ascii.isAlpha_iff.1 hchars.1
      omega

/-- The URL of a text whose trimmed text begins as one of the web is one of the web. -/
theorem isHttp_of_parse? {t : Text} {u : Url} (ht : Classification.isHttp (Text.trim t) = true)
    (h : parse? t = some u) : u.IsHttp := by
  obtain ⟨s, slashes, rest, hs, hcolon, hlow, hscheme⟩ := exists_scheme_of_isHttp ht
  obtain ⟨back, hback⟩ := Text.trim_prefix t
  have hlead : t = t.takeWhile Text.isBlank ++ (s ++ ':' :: slashes ++ (rest ++ back)) := by
    rw [← List.append_assoc (s ++ _), ← hs, hback]
    exact List.takeWhile_append_dropWhile.symm
  generalize hl : t.takeWhile Text.isBlank = lead at hlead
  have hblank : ∀ c ∈ lead, Text.isBlank c = true := by
    rw [← hl]
    exact List.all_eq_true.1 List.all_takeWhile
  have hmargin : ∀ c ∈ lead.takeWhile isMargin, isMargin c = true :=
    List.all_eq_true.1 List.all_takeWhile
  rw [parse?_eq] at h
  obtain ⟨⟨scheme, after⟩, hcut, h⟩ := Option.bind_eq_some_iff.1 h
  have hu : u.scheme = scheme := by
    obtain ⟨front, _, rfl⟩ := Option.map_eq_some_iff.1 h
    rfl
  rw [hlead, ← List.takeWhile_append_dropWhile (p := isMargin) (l := lead), List.append_assoc,
    clean_append_of_isMargin hmargin] at hcut
  cases hrest : lead.dropWhile isMargin with
  | nil =>
    rw [hrest, List.nil_append] at hcut
    rw [IsHttp, hu, scheme_eq_of_cutScheme? hcolon hlow hcut]
    exact hscheme
  | cons c lead' =>
    have hc : isMargin c = false := by
      have := List.head?_dropWhile_not isMargin lead
      rw [hrest] at this
      simpa using this
    have hb := hblank c ((List.dropWhile_sublist _).subset (hrest ▸ List.mem_cons_self))
    rw [hrest, List.cons_append, cutScheme?_of_isBlank hb hc] at hcut
    cases hcut

end Url

namespace Classification

variable {url : Text} {config : Config}

/-- A link that is not skipped is one of the web, and its domain alone decides about it. -/
lemma ofUrl_of_not_skipped (h : (ofUrl url config).method ≠ .skipped) :
    isHttp (Text.trim url) = true ∧
      ∃ d, Url.domain? (Text.trim url) = some d ∧ ofUrl url config = ofMerchant d config := by
  unfold ofUrl at h ⊢
  by_cases hhttp : isHttp (Text.trim url) = true
  · rw [if_pos hhttp] at h ⊢
    cases hd : Url.domain? (Text.trim url) with
    | none =>
      rw [hd] at h
      exact absurd rfl h
    | some d => exact ⟨hhttp, d, rfl, rfl⟩
  · rw [if_neg hhttp] at h
    exact absurd rfl h

lemma isHttp_of_parse? {u : Url} (h : (ofUrl url config).method ≠ .skipped)
    (hu : Url.parse? url = some u) : u.IsHttp :=
  Url.isHttp_of_parse? (ofUrl_of_not_skipped h).1 hu

/-- The domain of the text as it is leads to the same classification only if it is the same. -/
lemma ofUrl_eq_iff (h : (ofUrl url config).method ≠ .skipped) :
    (Url.domain? url).elim .skipped (fun d => ofMerchant d config) = ofUrl url config ↔
      Url.domain? url = Url.domain? (Text.trim url) := by
  obtain ⟨_, d, hd, hc⟩ := ofUrl_of_not_skipped h
  rw [hd, hc]
  constructor
  · intro heq
    cases hdomain : Url.domain? url with
    | none =>
      rw [hdomain, Option.elim_none, ← hc] at heq
      exact absurd (congrArg method heq).symm h
    | some d' =>
      rw [hdomain, Option.elim_some] at heq
      exact congrArg (fun c => some c.merchant) heq
  · intro hdomain
    rw [hdomain, Option.elim_some]

end Classification

end AffiliateLinks
