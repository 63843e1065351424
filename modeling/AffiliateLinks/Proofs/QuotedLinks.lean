import AffiliateLinks.Proofs.Splice
import AffiliateLinks.Proofs.TaggedUrl
import AffiliateLinks.Proofs.TrimmedUrl

/-!
# Links between quotes

A link that was rewritten goes back between the quotes that its value stood between. The value itself
holds no such quote, and neither does anything that is added or encoded on the way. Only the host of
a URL is decoded, so that a quote among the written link's characters comes from there.
-/

namespace AffiliateLinks

namespace Ampersand

lemma mem_of_afterReference? {t r : Text} {c : Char} (h : afterReference? t = some r)
    (hc : c ∈ r) : c ∈ t := by
  have hdrop {s p : Text} (h : Text.after? p (s.dropWhile (· = '0')) = some r) : c ∈ s := by
    refine (List.dropWhile_sublist (fun x => decide (x = '0'))).subset ?_
    rw [Text.after?_eq_some_iff.1 h]
    exact List.mem_append_right _ hc
  unfold afterReference? at h
  split at h
  · exact List.mem_cons_of_mem _ (List.mem_cons_of_mem _ (hdrop h))
  · exact List.mem_cons_of_mem _ (List.mem_cons_of_mem _ (hdrop h))
  · exact List.mem_cons_of_mem _ (hdrop h)
  · split at h
    · cases h
      exact List.mem_append_right [_, _, _, _] hc
    · cases h
  · cases h

/-- Decoding adds nothing to a text but ampersands. -/
theorem mem_of_mem_decode {t : Text} {c : Char} (h : c ∈ decode t) : c = '&' ∨ c ∈ t := by
  induction hn : t.length using Nat.strongRecOn generalizing t with
  | ind n ih =>
    subst hn
    cases t with
    | nil =>
      rw [decode] at h
      exact .inr h
    | cons d t =>
      rw [decode] at h
      split at h
      · split at h
        · next r hr =>
          have hlength := length_afterReference? hr
          rcases List.mem_cons.1 h with h | h
          · exact .inl h
          · have hr' := ih r.length (Nat.lt_succ_of_lt hlength) h rfl
            exact hr'.imp_right fun hc => List.mem_cons_of_mem _ (mem_of_afterReference? hr hc)
        · rcases List.mem_cons.1 h with h | h
          · exact .inl h
          · exact (ih t.length (Nat.lt_succ_self _) h rfl).imp_right (List.mem_cons_of_mem _)
      · rcases List.mem_cons.1 h with h | h
        · exact .inr (h ▸ List.mem_cons_self)
        · exact (ih t.length (Nat.lt_succ_self _) h rfl).imp_right (List.mem_cons_of_mem _)

/-- Encoding changes nothing but ampersands. -/
theorem mem_encode_iff {t : Text} {c : Char} (hc : c ∉ "&amp;".toList) :
    c ∈ encode t ↔ c ∈ t := by
  have hne : c ≠ '&' := fun h => hc (h ▸ by decide)
  rw [encode, Text.replace, List.mem_flatMap]
  constructor
  · rintro ⟨d, hd, h⟩
    split at h
    · exact absurd h hc
    · rwa [List.mem_singleton.1 h]
  · intro h
    exact ⟨c, h, by rw [if_neg hne]; exact List.mem_singleton_self c⟩

end Ampersand

namespace isQuote

variable {q : Char}

lemma ne {c : Char} (h : isQuote q) (hc : ¬isQuote c) : q ≠ c := fun hqc => hc (hqc ▸ h)

lemma eq_false {p : Char → Bool} (h : isQuote q) (hdouble : p '"' = false)
    (hsingle : p '\'' = false) : p q = false := by
  rcases h with rfl | rfl
  · exact hdouble
  · exact hsingle

lemma not_mem {t : Text} (h : isQuote q) (hdouble : '"' ∉ t) (hsingle : '\'' ∉ t) : q ∉ t := by
  rcases h with rfl | rfl
  · exact hdouble
  · exact hsingle

lemma specialQuery (h : isQuote q) : Percent.specialQuery q = true := by
  rcases h with rfl | rfl <;> decide

lemma not_isEscape (h : isQuote q) : ¬Percent.IsEscape q := fun he =>
  Bool.false_ne_true (he.specialQuery.symm.trans h.specialQuery)

lemma not_isFrontMark (h : isQuote q) : ¬IsFrontMark q := by
  unfold IsFrontMark
  rcases h with rfl | rfl <;> decide

lemma not_mem_of_specialQuery {t : Text} (h : isQuote q)
    (ht : ∀ c ∈ t, Percent.specialQuery c = false) : q ∉ t := fun hq =>
  Bool.false_ne_true ((ht q hq).symm.trans h.specialQuery)

end isQuote

namespace Url

lemma mem_hierarchy_of_mem_hostText {u : Url} {c : Char} (h : c ∈ u.hostText) :
    c ∈ u.hierarchy := by
  rw [hierarchy, frontText]
  cases ha : u.authority with
  | none =>
    rw [hostText, ha] at h
    cases h
  | some a =>
    rw [hostText, ha] at h
    simp only [Authority.text, List.mem_append]
    exact .inl (.inr (.inl (.inr h)))

/-- A quote that a text does not hold is written in its tagged URL only where it is in the host. -/
theorem quote_mem_text_tagged_iff {t tag : Text} {u : Url} {q : Char} (h : parse? t = some u)
    (hu : u.IsHttp) (htag : Tag.isValid tag = true) (hq : isQuote q) (ht : q ∉ t) :
    q ∈ (u.tagged tag).text ↔ q ∈ u.hostText := by
  have hplain := Tag.isPlain_of_isValid htag
  rw [text_tagged h hu hplain]
  simp only [List.mem_append, List.mem_cons]
  constructor
  · rintro (hc | hc | (hc | hc | hc) | hc)
    · refine absurd hc ?_
      rcases hu with hs | hs <;> rw [hs] <;> exact hq.not_mem (by decide) (by decide)
    · exact absurd hc (hq.ne (by decide))
    · rcases mem_hierarchy h hu hc with hc | ⟨hc, _⟩ | hc | hc
      · exact hc
      · exact absurd hc ht
      · exact absurd hc hq.not_isEscape
      · exact absurd hc hq.not_isFrontMark
    · exact absurd hc (hq.ne (by decide))
    · exact absurd hc (hq.not_mem_of_specialQuery fun _ => specialQuery_of_mem_tagged h hu hplain)
    · cases hf : u.fragment with
      | none =>
        rw [hf] at hc
        cases hc
      | some f =>
        rw [hf] at hc
        rcases List.mem_cons.1 hc with hc | hc
        · exact absurd hc (hq.ne (by decide))
        · rcases mem_fragment h hu hf hc with ⟨hc, _⟩ | hc
          · exact absurd hc ht
          · exact absurd hc hq.not_isEscape
  · intro hc
    exact .inr (.inr (.inl (.inl (mem_hierarchy_of_mem_hostText hc))))

end Url

lemma AmazonLink.quote_not_mem_append {url tag : Text} {q : Char} (htag : Tag.isValid tag = true)
    (hq : isQuote q) (h : q ∉ url) : q ∉ append url tag := by
  have hsegment : q ∉ tagSegment tag :=
    hq.not_mem_of_specialQuery fun _ hc => (tagSegment_bounds (Tag.isPlain_of_isValid htag) hc).1
  have hmark : ∀ b : Bool, q ≠ if b then '&' else '?' := by
    intro b
    cases b
    · exact hq.ne (by decide)
    · exact hq.ne (by decide)
  rw [append, List.mem_append, List.mem_cons, not_or, not_or]
  exact ⟨h, hmark _, hsegment⟩

lemma Skimlinks.quote_not_mem_wrap {url id : Text} {q : Char}
    (hid : id.all Char.isAlphanum = true) (hq : isQuote q) : q ∉ wrap url id := by
  have hletter : q.isAlphanum = false := hq.eq_false (by decide) (by decide)
  have hplain : Form.isPlain q = false := hq.eq_false (by decide) (by decide)
  simp only [wrap, List.mem_append, not_or]
  refine ⟨⟨⟨⟨hq.not_mem (by decide) (by decide), hq.not_mem (by decide) (by decide)⟩, ?_⟩,
    hq.not_mem (by decide) (by decide)⟩, ?_⟩
  · intro hc
    exact Bool.false_ne_true (hletter.symm.trans (List.all_eq_true.1 hid q hc))
  · intro hc
    rcases Form.mem_encode hc with hc | hc | hc
    · exact Bool.false_ne_true (hplain.symm.trans hc)
    · exact hq.ne (by decide) hc
    · exact hq.not_isEscape hc

namespace Link

variable {config : Config} {brand : Option Text} {q : Char}

/-- What is written for a URL that earns holds a quote only if the host of the URL does. -/
theorem quote_mem_monetized_ofUrl_iff (brand : Option Text) {url : Text} (hconfig : config.IsChecked) (hq : isQuote q)
    (hurl : q ∉ url) : q ∈ (ofUrl url config brand).value.monetized ↔
      (ofUrl url config brand).value.method = .amazon ∧
        ∃ u, Url.parse? url = some u ∧ q ∈ u.hostText := by
  have htag := hconfig.tagFor brand
  change q ∈ ((Classification.ofUrl url config).method.rewrite url config brand).value ↔
    (Classification.ofUrl url config).method = .amazon ∧ _
  cases hm : (Classification.ofUrl url config).method with
  | amazon =>
    change q ∈ (AmazonLink.setTag url (config.tagFor brand)).value ↔ _
    cases hu : Url.parse? url with
    | none =>
      rw [AmazonLink.value_setTag_of_none hu]
      refine iff_of_false (AmazonLink.quote_not_mem_append htag hq hurl) ?_
      rintro ⟨_, u, h, _⟩
      cases h
    | some u =>
      have hhttp := Classification.isHttp_of_parse? (by rw [hm]; decide) hu
      rw [AmazonLink.value_setTag_of_some hu hhttp,
        Url.quote_mem_text_tagged_iff hu hhttp htag hq hurl]
      constructor
      · exact fun h => ⟨rfl, u, rfl, h⟩
      · rintro ⟨_, _, hsome, h⟩
        cases hsome
        exact h
  | skimlinks =>
    refine iff_of_false ?_ fun h => by cases h.1
    unfold Method.rewrite
    cases hid : config.skimlinksId with
    | none => exact hurl
    | some id => exact Skimlinks.quote_not_mem_wrap (hconfig.skimlinksId id hid) hq
  | passthrough => exact iff_of_false hurl fun h => by cases h.1
  | skipped => exact iff_of_false hurl fun h => by cases h.1

/-- As for a URL, for a link whose value in the markup holds no such quote. -/
theorem quote_mem_monetized_ofMarkup_iff {value : Text} (hconfig : config.IsChecked)
    (hq : isQuote q) (hvalue : q ∉ value)
    (hm : (ofMarkup value config brand).value.method.isMonetized = true) :
    q ∈ (ofMarkup value config brand).value.monetized ↔
      (ofMarkup value config brand).value.method = .amazon ∧
        ∃ u, Url.parse? (Ampersand.decode value) = some u ∧ q ∈ u.hostText := by
  have hurl : q ∉ Ampersand.decode value := by
    intro h
    rcases Ampersand.mem_of_mem_decode h with h | h
    · exact hq.ne (by decide) h
    · exact hvalue h
  have hiff := quote_mem_monetized_ofUrl_iff brand hconfig hq hurl
  rw [monetized_ofMarkup_of_isMonetized _ _ _ hm]
  split
  · exact (Ampersand.mem_encode_iff (hq.not_mem (by decide) (by decide))).trans hiff
  · exact hiff

end Link

lemma Page.reads_of_mem_anchors {html : Text} {a : Anchor} (h : a ∈ anchors html) :
    ∃ t, a.Reads Href.InAnchor t := by
  induction html using Page.induction with
  | nil => cases h
  | char c t hc ih =>
    rw [anchors, pieces_char hc] at h
    exact ih h
  | anchor b t hb ih =>
    rw [anchors, pieces_anchor hb] at h
    rcases List.mem_cons.1 h with rfl | h
    · exact ⟨_, Anchor.reads_of_read? hb⟩
    · exact ih h

namespace MonetizedPage

lemma links_ofPieces (config : Config) (brand : Option Text) (ps : List Piece) :
    (ofPieces config brand ps).value.links =
      (ps.filterMap fun | .anchor a => some a | .char _ => none).map
        fun a => (Link.ofMarkup a.link config brand).value := by
  induction ps with
  | nil => rfl
  | cons p ps ih =>
    cases p with
    | char c => exact ih
    | anchor a => exact congrArg (_ :: ·) ih

/-- The links of a monetized page are those of the anchors of the page. -/
theorem links_ofHtml (html : Text) (config : Config) (brand : Option Text) :
    (ofHtml html config brand).value.links =
      (Page.anchors html).map fun a => (Link.ofMarkup a.link config brand).value :=
  links_ofPieces config brand (Page.pieces html)

/-- Every link stands between two equal quotes. What is written for one that earns holds this quote
exactly if the link leads to Amazon and the quote is among the characters of its decoded host. -/
theorem quote_mem_monetized_iff {amazonTag : Text} {steps : List Config.Step} {config : Config}
    (hbuild : Config.build amazonTag steps = .ok config) (html : Text) (brand : Option Text) :
    let links := (ofHtml html config brand).value.links
    links.map Link.original = (Page.anchors html).map Anchor.link ∧
      ∀ (i : Nat) (a : Anchor) (link : Link),
        (Page.anchors html)[i]? = some a → links[i]? = some link →
        ∃ q, isQuote q ∧ a.before.getLast? = some q ∧ a.after.head? = some q ∧
          (link.method = .amazon ∨ link.method = .skimlinks →
            (q ∈ link.monetized ↔ link.method = .amazon ∧
              ∃ u, Url.parse? (Ampersand.decode link.original) = some u ∧ q ∈ u.hostText)) := by
  intro links
  have hlinks : links = (Page.anchors html).map _ := links_ofHtml html config brand
  constructor
  · rw [hlinks, List.map_map]
    rfl
  · intro i a link ha hlink
    rw [hlinks, List.getElem?_map, ha] at hlink
    obtain rfl := Option.some.inj hlink
    obtain ⟨t, hreads⟩ := Page.reads_of_mem_anchors (List.mem_of_getElem? ha)
    obtain ⟨f, q, _, hq, hbefore, hafter, hvalue⟩ := hreads.quoted
    refine ⟨q, hq, ?_, hafter, fun hm => ?_⟩
    · rw [hbefore, List.getLast?_append, List.getLast?_singleton, Option.some_or]
    · exact Link.quote_mem_monetized_ofMarkup_iff (Config.isChecked_of_build hbuild) hq hvalue
        (Method.isMonetized_iff.2 hm)

/-- The host of a link is decoded, and its quote ends the value before the rest of the URL. -/
theorem exists_quote_mem_monetized :
    let html := "<a href='http://a%27.amazon.com/'>x</a>".toList
    ∃ config, Config.build "site-20".toList [] = .ok config ∧ ∃ a link,
      (Page.anchors html)[0]? = some a ∧ (ofHtml html config none).value.links[0]? = some link ∧
      link.method = .amazon ∧ a.before.getLast? = some '\'' ∧ a.after.head? = some '\'' ∧
      '\'' ∈ link.monetized ∧
      (ofHtml html config none).value.html =
        "<a href='http://a'.amazon.com/?tag=site-20' rel=\"nofollow sponsored\">x</a>".toList := by
  refine ⟨Config.ofTag "site-20".toList, Config.build_nil _ (by decide),
    ⟨"<a href='".toList, "http://a%27.amazon.com/".toList, "'>".toList⟩,
    ⟨"http://a%27.amazon.com/".toList, "http://a'.amazon.com/?tag=site-20".toList, .amazon,
      "a'.amazon.com".toList⟩, ?_⟩
  decide +kernel

/-- A link to a host without quotes stays within its own. -/
theorem quote_not_mem_monetized_product :
    let html := "<a href=\"https://www.amazon.com/dp/X?q=it's&amp;k=%22\">x</a>".toList
    ∃ config, Config.build "site-20".toList [] = .ok config ∧ ∃ a link,
      (Page.anchors html)[0]? = some a ∧ (ofHtml html config none).value.links[0]? = some link ∧
      link.method = .amazon ∧ a.before.getLast? = some '"' ∧ '"' ∉ link.monetized := by
  intro html
  have hbuild := Config.build_nil "site-20".toList (by decide)
  let a : Anchor := ⟨"<a href=\"".toList,
    "https://www.amazon.com/dp/X?q=it's&amp;k=%22".toList, "\">".toList⟩
  let link : Link := ⟨a.link, "https://www.amazon.com/dp/X?q=it%27s&amp;k=%22&amp;tag=site-20".toList,
    .amazon, "amazon.com".toList⟩
  have ha : (Page.anchors html)[0]? = some a := by decide +kernel
  have hlink : (ofHtml html (.ofTag "site-20".toList) none).value.links[0]? = some link := by
    decide +kernel
  have hhost : (Url.parse? (Ampersand.decode a.link)).all (fun u => '"' ∉ u.hostText) = true := by
    decide +kernel
  have hquote : a.before.getLast? = some '"' := by decide
  refine ⟨_, hbuild, a, link, ha, hlink, rfl, hquote, fun hmem => ?_⟩
  obtain ⟨q, _, hq, _, hiff⟩ := (quote_mem_monetized_iff hbuild html none).2 0 a link ha hlink
  obtain rfl := Option.some.inj (hquote.symm.trans hq)
  obtain ⟨_, u, hu, hmem⟩ := (hiff (.inl rfl)).1 hmem
  rw [show Ampersand.decode link.original = Ampersand.decode a.link from rfl] at hu
  rw [hu, Option.all_some, decide_eq_true_eq] at hhost
  exact hhost hmem

end MonetizedPage

end AffiliateLinks
