import AffiliateLinks.Proofs.UrlReading

/-!
# Texts of http and https URLs

A text of one of these schemes is read by cutting it at its delimiters. The text that a URL is
written as holds none of them where it would be cut again, so that exchanging the query of a URL that
reads back gives a URL that reads back.
-/

namespace AffiliateLinks.Url

/-- The URL is of one of the two schemes of links that are monetized. -/
def IsHttp (u : Url) : Prop := u.scheme = "http".toList ∨ u.scheme = "https".toList

/-- Reading the text of the URL gives the URL. -/
def ReadsBack (u : Url) : Prop := parse? u.text = some u

instance (u : Url) : Decidable u.IsHttp := inferInstanceAs (Decidable (_ ∨ _))

instance (u : Url) : Decidable u.ReadsBack := inferInstanceAs (Decidable (_ = _))

lemma mem_clean {t : Text} {c : Char} (h : c ∈ clean t) : c ∈ t := by
  have hfilter := (List.mem_filter.1 h).1
  have hend := (List.dropWhile_sublist _).subset (List.mem_reverse.1 hfilter)
  exact (List.dropWhile_sublist _).subset (List.mem_reverse.1 hend)

/-- The characters that are passed over at the ends of a text. -/
abbrev isMargin (c : Char) : Bool := decide (c.toNat ≤ 0x20)

lemma clean_eq (t : Text) : clean t =
    ((t.dropWhile isMargin).reverse.dropWhile isMargin).reverse.filter fun c => !isIgnored c := rfl

lemma isIgnored_of_lt {c : Char} (h : 0x20 < c.toNat) : isIgnored c = false := by
  rw [isIgnored]
  simp only [Bool.or_eq_false_iff, decide_eq_false_iff_not]
  refine ⟨⟨?_, ?_⟩, ?_⟩ <;>
    · rintro rfl
      exact absurd h (by decide)

lemma filter_isIgnored_eq_self {t : Text} (h : ∀ c ∈ t, 0x20 < c.toNat) :
    t.filter (fun c => !isIgnored c) = t := by
  refine List.filter_eq_self.2 fun c hc => ?_
  rw [isIgnored_of_lt (h c hc), Bool.not_false]

lemma dropWhile_isMargin_eq_self {t : Text} (h : ∀ c ∈ t, 0x20 < c.toNat) :
    t.dropWhile isMargin = t :=
  Text.dropWhile_eq_self fun c hc => decide_eq_false (by have := h c hc; omega)

lemma clean_eq_self {t : Text} (h : ∀ c ∈ t, 0x20 < c.toNat) : clean t = t := by
  have hreverse : ∀ c ∈ t.reverse, 0x20 < c.toNat := fun c hc => h c (List.mem_reverse.1 hc)
  rw [clean_eq, dropWhile_isMargin_eq_self h, dropWhile_isMargin_eq_self hreverse,
    List.reverse_reverse, filter_isIgnored_eq_self h]

lemma cutScheme?_eq_some_iff {t scheme rest : Text} : cutScheme? t = some (scheme, rest) ↔
    ∃ s, t = s ++ ':' :: rest ∧ ':' ∉ s ∧ (s.head?.any Char.isAlpha && s.all isSchemeChar) = true ∧
      scheme = Text.lower s := by
  unfold cutScheme?
  simp only [bind, Option.bind_eq_some_iff, Prod.exists]
  constructor
  · rintro ⟨s, rest', hcut, h⟩
    split at h
    · next hs =>
      cases h
      obtain ⟨rfl, hn⟩ := Text.cut?_eq_some_iff.1 hcut
      exact ⟨s, rfl, hn, hs, rfl⟩
    · cases h
  · rintro ⟨s, rfl, hn, hs, rfl⟩
    exact ⟨s, rest, Text.cut?_eq_some_iff.2 ⟨rfl, hn⟩, if_pos hs⟩

section cutPart

variable {d : Char} {t a b : Text}

lemma cutPart_of_not_mem (h : d ∉ t) : cutPart d t = (t, none) := by
  rw [cutPart, Text.cut?_eq_none_iff.2 h]

lemma cutPart_append (h : d ∉ a) (b : Text) : cutPart d (a ++ d :: b) = (a, some b) := by
  rw [cutPart, Text.cut?_eq_some_iff.2 ⟨rfl, h⟩]

/-- A text is cut at the first delimiter, or nowhere. -/
lemma cutPart_cases (d : Char) (t : Text) : (cutPart d t = (t, none) ∧ d ∉ t) ∨
    ∃ a b, t = a ++ d :: b ∧ d ∉ a ∧ cutPart d t = (a, some b) := by
  cases h : Text.cut? d t with
  | none => exact .inl ⟨by rw [cutPart, h], Text.cut?_eq_none_iff.1 h⟩
  | some p =>
    obtain ⟨ht, ha⟩ := Text.cut?_eq_some_iff.1 h
    exact .inr ⟨p.1, p.2, ht, ha, by rw [cutPart, h]⟩

lemma mem_cutPart_fst {c : Char} (h : c ∈ (cutPart d t).1) : c ∈ t := by
  rcases cutPart_cases d t with ⟨hcut, _⟩ | ⟨a, b, ht, _, hcut⟩
  · rwa [hcut] at h
  · rw [hcut] at h
    rw [ht]
    exact List.mem_append_left _ h

lemma mem_cutPart_snd {c : Char} (hb : (cutPart d t).2 = some b) (h : c ∈ b) : c ∈ t := by
  rcases cutPart_cases d t with ⟨hcut, _⟩ | ⟨a, b', ht, _, hcut⟩
  · rw [hcut] at hb
    cases hb
  · rw [hcut] at hb
    cases hb
    rw [ht]
    exact List.mem_append_right _ (List.mem_cons_of_mem _ h)

end cutPart

/-- Authority and path of a text that is cut off from its scheme and its query. -/
def readFront? (scheme t : Text) (closed : Bool) : Option Front :=
  match SchemeKind.ofScheme scheme with
  | .web => readWeb? scheme t
  | .file => readFile? t
  | .other => readOther? scheme t closed

/-- The URL of a scheme and the text after its colon. -/
def ofScheme? (scheme rest : Text) : Option Url :=
  let body := cutPart '?' (cutPart '#' rest).1
  let fragment := (cutPart '#' rest).2
  (readFront? scheme body.1 (body.2.isSome || fragment.isSome)).map fun front =>
    { scheme, authority := front.1, path := front.2
      query := body.2.map (Percent.encode (querySet (.ofScheme scheme)))
      fragment := fragment.map (Percent.encode Percent.fragment) }

lemma parse?_eq (t : Text) :
    parse? t = (cutScheme? (clean t)).bind fun p => ofScheme? p.1 p.2 := by
  refine congrArg (Option.bind (cutScheme? (clean t))) (funext fun p => ?_)
  obtain ⟨scheme, rest⟩ := p
  dsimp only [ofScheme?, readFront?]
  cases SchemeKind.ofScheme scheme with
  | web => exact (Option.map_eq_bind).symm
  | file => exact (Option.map_eq_bind).symm
  | other => exact (Option.map_eq_bind).symm

/-- The reading of a text of http or https whose scheme is cut off. -/
lemma ofScheme?_of_http {scheme : Text} (hs : scheme = "http".toList ∨ scheme = "https".toList)
    (rest : Text) :
    ofScheme? scheme rest = (readWeb? scheme (cutPart '?' (cutPart '#' rest).1).1).map fun front =>
      { scheme, authority := front.1, path := front.2
        query := (cutPart '?' (cutPart '#' rest).1).2.map (Percent.encode Percent.specialQuery)
        fragment := (cutPart '#' rest).2.map (Percent.encode Percent.fragment) } := by
  have hk : SchemeKind.ofScheme scheme = .web := by
    rcases hs with rfl | rfl
    · decide
    · decide
  simp only [ofScheme?, readFront?, hk]
  rfl

/-- A URL of these schemes has an authority, and a path that hangs from a root. -/
lemma readWeb?_eq_some_iff {scheme t : Text} {front : Front} : readWeb? scheme t = some front ↔
    ∃ a, Authority.special? scheme ((t.dropWhile isSlash).takeWhile fun c => !isSlash c) = some a ∧
      (some a, .read true (((t.dropWhile isSlash).dropWhile fun c => !isSlash c).drop 1)) =
        front := by
  unfold readWeb?
  simp only [Option.bind_eq_bind, Option.bind_eq_some_iff, Option.pure_def, Option.some.injEq]

/-- What reading a URL of these schemes has gone through. -/
lemma exists_of_parse? {t : Text} {u : Url} (h : parse? t = some u) (hu : u.IsHttp) :
    ∃ rest, cutScheme? (clean t) = some (u.scheme, rest) ∧
      readWeb? u.scheme (cutPart '?' (cutPart '#' rest).1).1 = some (u.authority, u.path) ∧
      u.query = (cutPart '?' (cutPart '#' rest).1).2.map (Percent.encode Percent.specialQuery) ∧
      u.fragment = (cutPart '#' rest).2.map (Percent.encode Percent.fragment) := by
  rw [parse?_eq] at h
  obtain ⟨⟨scheme, rest⟩, hcut, h⟩ := Option.bind_eq_some_iff.1 h
  have hscheme : scheme = u.scheme := by
    obtain ⟨front, _, rfl⟩ := Option.map_eq_some_iff.1 h
    rfl
  subst hscheme
  dsimp only at h
  rw [ofScheme?_of_http hu] at h
  obtain ⟨front, hfront, hurl⟩ := Option.map_eq_some_iff.1 h
  refine ⟨rest, hcut, ?_, ?_, ?_⟩
  · rw [hfront, ← hurl]
  · rw [← hurl]
  · rw [← hurl]

/-- Everything of the text before the query and after the colon of the scheme. -/
def hierarchy (u : Url) : Text := u.frontText ++ u.path.text

def queryText : Option Text → Text
  | some q => '?' :: q
  | none => []

def fragmentText : Option Text → Text
  | some f => '#' :: f
  | none => []

lemma text_eq (u : Url) :
    u.text = u.scheme ++ ':' :: (u.hierarchy ++ queryText u.query ++ fragmentText u.fragment) := by
  unfold text hierarchy
  cases u.query <;> cases u.fragment <;>
    simp only [queryText, fragmentText, List.append_assoc, List.cons_append, List.append_nil]

lemma mem_hierarchy {t : Text} {u : Url} {c : Char} (h : parse? t = some u) (hu : u.IsHttp)
    (hc : c ∈ u.hierarchy) :
    c ∈ u.hostText ∨ (c ∈ t ∧ Percent.path c = false) ∨ Percent.IsEscape c ∨ IsFrontMark c := by
  obtain ⟨rest, hcut, hfront, _, _⟩ := exists_of_parse? h hu
  obtain ⟨a, ha, hpair⟩ := readWeb?_eq_some_iff.1 hfront
  obtain ⟨hauthority, hpath⟩ := Prod.mk.inj hpair
  obtain ⟨s, hclean, _, _, _⟩ := cutScheme?_eq_some_iff.1 hcut
  have hbody {d : Char} (hd : d ∈ (cutPart '?' (cutPart '#' rest).1).1) : d ∈ t := by
    refine mem_clean ?_
    rw [hclean]
    exact List.mem_append_right _ (List.mem_cons_of_mem _ (mem_cutPart_fst (mem_cutPart_fst hd)))
  have hslash : IsFrontMark '/' := .inl (by decide)
  rw [hierarchy, List.mem_append] at hc
  rcases hc with hc | hc
  · rw [frontText, ← hauthority] at hc
    rcases List.mem_append.1 hc with hc | hc
    · have : c = '/' := by simpa using hc
      exact .inr (.inr (.inr (this ▸ hslash)))
    · have hhost : u.hostText = a.host.text := by rw [hostText, ← hauthority]
      rw [hhost]
      rcases Authority.mem_text ha hc with hc | ⟨hc, hset⟩ | hc
      · exact .inl hc
      · have hc := (List.dropWhile_sublist _).subset ((List.takeWhile_sublist _).subset hc)
        exact .inr (.inl ⟨hbody hc, hset⟩)
      · exact .inr (.inr hc)
  · rw [← hpath] at hc
    rcases UrlPath.mem_text_read hc with rfl | ⟨hc, hset⟩ | hc
    · exact .inr (.inr (.inr hslash))
    · have hc := (List.dropWhile_sublist _).subset
        ((List.dropWhile_sublist _).subset ((List.drop_sublist _ _).subset hc))
      exact .inr (.inl ⟨hbody hc, hset⟩)
    · exact .inr (.inr (.inl hc))

lemma mem_query {t q : Text} {u : Url} {c : Char} (h : parse? t = some u) (hu : u.IsHttp)
    (hq : u.query = some q) (hc : c ∈ q) :
    (c ∈ t ∧ Percent.specialQuery c = false) ∨ Percent.IsEscape c := by
  obtain ⟨rest, hcut, _, hquery, _⟩ := exists_of_parse? h hu
  obtain ⟨s, hclean, _, _, _⟩ := cutScheme?_eq_some_iff.1 hcut
  rw [hquery] at hq
  obtain ⟨raw, hraw, rfl⟩ := Option.map_eq_some_iff.1 hq
  rcases Percent.mem_encode hc with ⟨hc, hset⟩ | hc
  · refine .inl ⟨mem_clean ?_, hset⟩
    rw [hclean]
    exact List.mem_append_right _
      (List.mem_cons_of_mem _ (mem_cutPart_fst (mem_cutPart_snd hraw hc)))
  · exact .inr hc

lemma mem_fragment {t f : Text} {u : Url} {c : Char} (h : parse? t = some u) (hu : u.IsHttp)
    (hf : u.fragment = some f) (hc : c ∈ f) :
    (c ∈ t ∧ Percent.fragment c = false) ∨ Percent.IsEscape c := by
  obtain ⟨rest, hcut, _, _, hfragment⟩ := exists_of_parse? h hu
  obtain ⟨s, hclean, _, _, _⟩ := cutScheme?_eq_some_iff.1 hcut
  rw [hfragment] at hf
  obtain ⟨raw, hraw, rfl⟩ := Option.map_eq_some_iff.1 hf
  rcases Percent.mem_encode hc with ⟨hc, hset⟩ | hc
  · refine .inl ⟨mem_clean ?_, hset⟩
    rw [hclean]
    exact List.mem_append_right _ (List.mem_cons_of_mem _ (mem_cutPart_snd hraw hc))
  · exact .inr hc

lemma isFrontChar_of_mem_hostText {t : Text} {u : Url} {c : Char} (h : parse? t = some u)
    (hu : u.IsHttp) (hc : c ∈ u.hostText) : IsFrontChar c := by
  obtain ⟨rest, _, hfront, _, _⟩ := exists_of_parse? h hu
  obtain ⟨a, ha, hpair⟩ := readWeb?_eq_some_iff.1 hfront
  obtain ⟨hauthority, _⟩ := Prod.mk.inj hpair
  obtain ⟨_, _, host, _, _, hhost, _, rfl⟩ := Authority.special?_eq_some ha
  rw [hostText, ← hauthority] at hc
  exact Host.isFrontChar_of_mem_text hhost hc

lemma isFrontChar_of_mem_hierarchy {t : Text} {u : Url} {c : Char} (h : parse? t = some u)
    (hu : u.IsHttp) (hc : c ∈ u.hierarchy) : IsFrontChar c := by
  rcases mem_hierarchy h hu hc with hc | ⟨_, hset⟩ | hc | hc
  · exact isFrontChar_of_mem_hostText h hu hc
  · exact Percent.isPrintable_of_path hset
  · exact hc.isFrontChar
  · exact hc.isFrontChar

lemma isFrontChar_of_mem_scheme {u : Url} {c : Char} (hu : u.IsHttp) (hc : c ∈ u.scheme) :
    IsFrontChar c := by
  have hbounds : ∀ c ∈ u.scheme,
      0x24 ≤ c.toNat ∧ c.toNat ≤ 0x7E ∧ c.toNat ≠ 0x3F ∧ c.toNat ≠ 0x3C := by
    rcases hu with hu | hu <;> rw [hu] <;> exact Text.forall_of_all (by decide)
  obtain ⟨hlow, hhigh, hne⟩ := hbounds c hc
  exact .of_bounds hlow hhigh hne

lemma cutPart_fragmentText {body : Text} (h : '#' ∉ body) (fragment : Option Text) :
    cutPart '#' (body ++ fragmentText fragment) = (body, fragment) := by
  cases fragment with
  | none =>
    rw [fragmentText, List.append_nil]
    exact cutPart_of_not_mem h
  | some f => exact cutPart_append h f

lemma cutPart_queryText {body : Text} (h : '?' ∉ body) (query : Option Text) :
    cutPart '?' (body ++ queryText query) = (body, query) := by
  cases query with
  | none =>
    rw [queryText, List.append_nil]
    exact cutPart_of_not_mem h
  | some q => exact cutPart_append h q

lemma isPrintable_of_mem_text {u : Url} {c : Char} (hs : ∀ c ∈ u.scheme, IsPrintable c)
    (hh : ∀ c ∈ u.hierarchy, IsPrintable c) (hq : ∀ q ∈ u.query, ∀ c ∈ q, IsPrintable c)
    (hf : ∀ f ∈ u.fragment, ∀ c ∈ f, IsPrintable c) (hc : c ∈ u.text) : IsPrintable c := by
  rw [text_eq, List.mem_append, List.mem_cons, List.mem_append, List.mem_append] at hc
  rcases hc with hc | rfl | (hc | hc) | hc
  · exact hs c hc
  · exact ⟨by decide, by decide⟩
  · exact hh c hc
  · cases hquery : u.query with
    | none =>
      rw [hquery] at hc
      cases hc
    | some q =>
      rw [hquery] at hc
      rcases List.mem_cons.1 hc with rfl | hc
      · exact ⟨by decide, by decide⟩
      · exact hq q hquery c hc
  · cases hfragment : u.fragment with
    | none =>
      rw [hfragment] at hc
      cases hc
    | some f =>
      rw [hfragment] at hc
      rcases List.mem_cons.1 hc with rfl | hc
      · exact ⟨by decide, by decide⟩
      · exact hf f hfragment c hc

/-- A text in written form is read part by part. -/
lemma parse?_text {u : Url} (hu : u.IsHttp) (hh : ∀ c ∈ u.hierarchy, IsFrontChar c)
    (hq : ∀ q ∈ u.query, ∀ c ∈ q, IsPrintable c ∧ c ≠ '#')
    (hf : ∀ f ∈ u.fragment, ∀ c ∈ f, IsPrintable c) :
    parse? u.text = (readWeb? u.scheme u.hierarchy).map fun front =>
      { scheme := u.scheme, authority := front.1, path := front.2
        query := u.query.map (Percent.encode Percent.specialQuery)
        fragment := u.fragment.map (Percent.encode Percent.fragment) } := by
  have hclean : clean u.text = u.text := clean_eq_self fun c hc =>
    (isPrintable_of_mem_text (fun c hc => (isFrontChar_of_mem_scheme hu hc).1)
      (fun c hc => (hh c hc).1) (fun q hq' c hc => (hq q hq' c hc).1) hf hc).1
  have hscheme : ':' ∉ u.scheme ∧
      (u.scheme.head?.any Char.isAlpha && u.scheme.all isSchemeChar) = true ∧
      u.scheme = Text.lower u.scheme := by
    rcases hu with hu | hu <;> rw [hu] <;> decide
  have hcut := cutScheme?_eq_some_iff.2 ⟨u.scheme, u.text_eq, hscheme⟩
  have hnumber : '#' ∉ u.hierarchy ++ queryText u.query := by
    intro hc
    rcases List.mem_append.1 hc with hc | hc
    · exact (hh _ hc).2.1 rfl
    · cases hquery : u.query with
      | none =>
        rw [hquery] at hc
        cases hc
      | some q =>
        rw [hquery, queryText, List.mem_cons] at hc
        rcases hc with hc | hc
        · exact absurd hc (by decide)
        · exact (hq q hquery _ hc).2 rfl
  have hquestion : '?' ∉ u.hierarchy := fun hc => (hh _ hc).2.2.1 rfl
  rw [parse?_eq, hclean, hcut, Option.bind_some, ofScheme?_of_http hu,
    cutPart_fragmentText hnumber, cutPart_queryText hquestion]

lemma withQuery_eq {u : Url} {q : Text} (hu : u.IsHttp)
    (hq : ∀ c ∈ q, Percent.specialQuery c = false) : u.withQuery q = { u with query := some q } := by
  have hset : querySet u.kind = Percent.specialQuery := by
    unfold kind
    rcases hu with hu | hu <;> rw [hu] <;> rfl
  have hlow : ∀ c ∈ q, 0x20 < c.toNat := fun c hc =>
    (Percent.isPrintable_of_specialQuery (hq c hc)).1.1
  rw [withQuery, hset, filter_isIgnored_eq_self hlow, Percent.encode_eq_self hq]

lemma isPrintable_of_mem_fragment {t : Text} {u : Url} (h : parse? t = some u) (hu : u.IsHttp) :
    ∀ f ∈ u.fragment, ∀ c ∈ f, IsPrintable c := by
  intro f hf c hc
  rcases mem_fragment h hu hf hc with ⟨_, hset⟩ | hc
  · exact Percent.isPrintable_of_fragment hset
  · exact hc.isPrintable

/-- The text of a URL that was read is read part by part, also where its query was exchanged. -/
lemma parse?_text_of_query {t q : Text} {u : Url} (h : parse? t = some u) (hu : u.IsHttp)
    (hq : ∀ c ∈ q, Percent.specialQuery c = false) :
    parse? { u with query := some q }.text = (readWeb? u.scheme u.hierarchy).map fun front =>
      { scheme := u.scheme, authority := front.1, path := front.2, query := some q
        fragment := u.fragment.map (Percent.encode Percent.fragment) } := by
  have hquery : ∀ q' ∈ some q, ∀ c ∈ q', IsPrintable c ∧ c ≠ '#' := by
    intro q' hq' c hc
    cases hq'
    exact Percent.isPrintable_of_specialQuery (hq c hc)
  have hparse := parse?_text (u := { u with query := some q }) hu
    (fun c hc => isFrontChar_of_mem_hierarchy h hu hc) hquery
    (fun f hf => isPrintable_of_mem_fragment h hu f hf)
  rw [hparse, Option.map_some, Percent.encode_eq_self hq]
  rfl

/-- Exchanging the query of a URL that reads back gives a URL that reads back. -/
theorem ReadsBack.withQuery {t q : Text} {u : Url} (hback : u.ReadsBack) (h : parse? t = some u)
    (hu : u.IsHttp) (hq : ∀ c ∈ q, Percent.specialQuery c = false) : (u.withQuery q).ReadsBack := by
  have hquery : ∀ q ∈ u.query, ∀ c ∈ q, IsPrintable c ∧ c ≠ '#' := by
    intro q hq c hc
    rcases mem_query h hu hq hc with ⟨_, hset⟩ | hc
    · exact Percent.isPrintable_of_specialQuery hset
    · exact ⟨hc.isPrintable, hc.isFrontChar.2.1⟩
  have hread : readWeb? u.scheme u.hierarchy = some (u.authority, u.path) ∧
      u.fragment.map (Percent.encode Percent.fragment) = u.fragment := by
    have hparse := hback
    rw [ReadsBack, parse?_text hu (fun c hc => isFrontChar_of_mem_hierarchy h hu hc) hquery
      (isPrintable_of_mem_fragment h hu)] at hparse
    obtain ⟨front, hfront, hurl⟩ := Option.map_eq_some_iff.1 hparse
    refine ⟨?_, congrArg Url.fragment hurl⟩
    rw [hfront, ← hurl]
  rw [withQuery_eq hu hq, ReadsBack, parse?_text_of_query h hu hq, hread.1, hread.2]
  rfl

end AffiliateLinks.Url
