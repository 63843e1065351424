import AffiliateLinks.Link.Monetize
import AffiliateLinks.Proofs.TaggedUrl
import AffiliateLinks.Proofs.TrimmedUrl

/-!
# Monetizing an Amazon link again

A link is classified by its trimmed text and rewritten from the text as it is. Where both stand for
URLs of one domain, the tagged URL is taken for an Amazon link again and keeps its one tag. Where they
do not, what is written is no URL with a tag in its query, or its tag is placed once more.
-/

namespace AffiliateLinks

namespace Url

variable {t tag : Text} {u : Url}

lemma domain?_eq_of_parse? {s : Text} {v : Url} (hs : parse? s = some u) (ht : parse? t = some v)
    (h : u.hostText = v.hostText) : domain? s = domain? t := by
  rw [domain?, domain?, hs, ht]
  change (if (Domain.withoutWww (Text.lower u.hostText)).isEmpty then _ else _) =
    if (Domain.withoutWww (Text.lower v.hostText)).isEmpty then _ else _
  rw [h]

lemma domain?_of_none (h : parse? t = none) : domain? t = none := by
  rw [domain?, h]
  rfl

lemma isPrintable_of_mem_text_tagged (h : parse? t = some u) (hu : u.IsHttp)
    (htag : Tag.isValid tag = true) : ∀ c ∈ (u.tagged tag).text, IsPrintable c := by
  intro c hc
  rw [tagged_eq h hu htag] at hc
  refine isPrintable_of_mem_text
    (u := { u with query := some (AmazonLink.tagQuery tag (u.query.getD [])) })
    (fun c hc => (isFrontChar_of_mem_scheme hu hc).1)
    (fun c hc => (isFrontChar_of_mem_hierarchy h hu hc).1) (fun q hq c hc => ?_)
    (fun f hf => isPrintable_of_mem_fragment h hu f hf) hc
  cases hq
  have hplain := Tag.isPlain_of_isValid htag
  exact (Percent.isPrintable_of_specialQuery (specialQuery_of_mem_tagged h hu hplain hc)).1

lemma ReadsBack.tagged (hback : u.ReadsBack) (h : parse? t = some u) (hu : u.IsHttp)
    (htag : Tag.isValid tag = true) : (u.tagged tag).ReadsBack :=
  hback.tagged_of_isPlain h hu (Tag.isPlain_of_isValid htag)

lemma tagged_tagged (hback : u.ReadsBack) (h : parse? t = some u) (hu : u.IsHttp)
    (htag : Tag.isValid tag = true) : (u.tagged tag).tagged tag = u.tagged tag := by
  have heq := tagged_eq h hu htag
  have hread : parse? (u.tagged tag).text = some (u.tagged tag) := hback.tagged h hu htag
  have hhttp : (u.tagged tag).IsHttp := hu
  rw [tagged_eq hread hhttp htag, heq]
  dsimp only [Option.getD_some]
  rw [AmazonLink.tagQuery_tagQuery tag (Tag.isPlain_of_isValid htag)]

/-- The text of a URL of the web begins as one of the web. -/
lemma isHttp_text (h : parse? t = some u) (hu : u.IsHttp) : Classification.isHttp u.text = true := by
  obtain ⟨rest, _, hfront, _, _⟩ := exists_of_parse? h hu
  obtain ⟨a, _, hpair⟩ := readWeb?_eq_some_iff.1 hfront
  have hhierarchy : ∃ r, u.hierarchy = '/' :: '/' :: r := by
    rw [hierarchy, frontText, ← (Prod.mk.inj hpair).1]
    exact ⟨_, rfl⟩
  obtain ⟨r, hr⟩ := hhierarchy
  have htext : Text.lower u.text = Text.lower u.scheme ++ ':' :: '/' :: '/' ::
      Text.lower (r ++ queryText u.query ++ fragmentText u.fragment) := by
    rw [text_eq, hr]
    simp only [Text.lower, List.map_append, List.map_cons, List.cons_append, List.append_assoc]
    rfl
  rw [Classification.isHttp_iff, htext]
  rcases hu with hs | hs
  · rw [hs]
    exact .inl ⟨_, rfl⟩
  · rw [hs]
    exact .inr ⟨_, rfl⟩

end Url

namespace Link

variable {url : Text} {config : Config} {brand : Option Text}

lemma monetized_ofUrl_of_amazon (h : (Classification.ofUrl url config).method = .amazon) :
    (ofUrl url config brand).value.monetized =
      (AmazonLink.setTag url (config.tagFor brand)).value := by
  change ((Classification.ofUrl url config).method.rewrite url config brand).value = _
  rw [h]
  rfl

lemma monetized_ofUrl_of_parse? {u : Url}
    (h : (Classification.ofUrl url config).method = .amazon) (hu : Url.parse? url = some u) :
    (ofUrl url config brand).value.monetized = (u.tagged (config.tagFor brand)).text := by
  have hhttp := Classification.isHttp_of_parse? (by rw [h]; decide) hu
  rw [monetized_ofUrl_of_amazon h, AmazonLink.value_setTag_of_some hu hhttp]

/-- The text that is written for a URL is classified by the domain of the URL. -/
lemma ofUrl_text_tagged (config : Config) {u : Url} {tag : Text} (hu : Url.parse? url = some u)
    (hhttp : u.IsHttp) (htag : Tag.isValid tag = true) (hback : u.ReadsBack) :
    Classification.ofUrl (u.tagged tag).text config =
      (Url.domain? url).elim .skipped fun d => Classification.ofMerchant d config := by
  have hread : Url.parse? (u.tagged tag).text = some (u.tagged tag) := hback.tagged hu hhttp htag
  have htrim : Text.trim (u.tagged tag).text = (u.tagged tag).text :=
    Text.trim_eq_self fun c hc =>
      Text.isBlank_of_isPrintable (Url.isPrintable_of_mem_text_tagged hu hhttp htag c hc)
  have hdomain : Url.domain? (u.tagged tag).text = Url.domain? url :=
    Url.domain?_eq_of_parse? hread hu rfl
  rw [Classification.ofUrl, htrim, if_pos (Url.isHttp_text hread hhttp), hdomain]
  cases Url.domain? url <;> rfl

/-- A text that tagging does not change holds no white space. -/
lemma isBlank_eq_false_of_monetized_eq {m : Text} {u : Url} (hconfig : config.IsChecked)
    (hm : (Classification.ofUrl m config).method = .amazon) (hu : Url.parse? m = some u)
    (hsame : (ofUrl m config brand).value.monetized = m) : ∀ c ∈ m, Text.isBlank c = false := by
  intro c hc
  have hhttp := Classification.isHttp_of_parse? (by rw [hm]; decide) hu
  rw [monetized_ofUrl_of_parse? hm hu] at hsame
  rw [← hsame] at hc
  exact Text.isBlank_of_isPrintable
    (Url.isPrintable_of_mem_text_tagged hu hhttp (hconfig.tagFor brand) c hc)

/-- An Amazon link whose URL reads back is taken for the same Amazon link after it was tagged, has
its tag in one segment, and is not changed any more, exactly if white space at the ends of its text
makes no difference to its domain. -/
theorem retagged_iff {amazonTag : Text} {steps : List Config.Step}
    (hbuild : Config.build amazonTag steps = .ok config) (url : Text) (brand : Option Text)
    (hm : (Classification.ofUrl url config).method = .amazon)
    (hback : ∀ u, Url.parse? url = some u → u.ReadsBack) :
    let m := (ofUrl url config brand).value.monetized
    (Classification.ofUrl m config = Classification.ofUrl url config ∧
      (∃ u q, Url.parse? m = some u ∧ u.query = some q ∧
        (Text.split '&' q).filter AmazonLink.isTagSegment =
          [AmazonLink.tagSegment (config.tagFor brand)]) ∧
      (ofUrl m config brand).value.monetized = m) ↔
      Url.domain? url = Url.domain? (Text.trim url) := by
  intro m
  have hconfig := Config.isChecked_of_build hbuild
  have htag := hconfig.tagFor brand
  have hskipped : (Classification.ofUrl url config).method ≠ .skipped := by
    rw [hm]
    decide
  cases hu : Url.parse? url with
  | none =>
    -- The tag was appended to the text, where a URL can be read from it only if nothing was trimmed.
    obtain ⟨_, d, hd, _⟩ := Classification.ofUrl_of_not_skipped hskipped
    rw [Url.domain?_of_none hu, hd]
    refine iff_of_false ?_ nofun
    rintro ⟨hclass, ⟨u, _, hread, _⟩, hsame⟩
    have hm' : (Classification.ofUrl m config).method = .amazon := by rw [hclass, hm]
    have hblank : ∀ c ∈ url, Text.isBlank c = false := by
      intro c hc
      apply isBlank_eq_false_of_monetized_eq hconfig hm' hread hsame
      change c ∈ (ofUrl url config brand).value.monetized
      rw [monetized_ofUrl_of_amazon hm, AmazonLink.value_setTag_of_none hu]
      exact List.mem_append_left _ hc
    rw [Text.trim_eq_self hblank, Url.domain?_of_none hu] at hd
    cases hd
  | some u =>
    -- The tag and the URL's text are as they should be, and only the classification is in question.
    have hhttp := Classification.isHttp_of_parse? hskipped hu
    have hback := hback u hu
    have hmonetized : m = (u.tagged (config.tagFor brand)).text := monetized_ofUrl_of_parse? hm hu
    have hread : Url.parse? m = some (u.tagged (config.tagFor brand)) := by
      rw [hmonetized]
      exact hback.tagged hu hhttp htag
    have hclass := ofUrl_text_tagged config hu hhttp htag hback
    rw [← hmonetized] at hclass
    rw [← Classification.ofUrl_eq_iff hskipped, ← hclass]
    constructor
    · intro h
      exact h.1
    · intro hsame
      refine ⟨hsame, ⟨_, AmazonLink.tagQuery (config.tagFor brand) (u.query.getD []), hread, ?_, ?_⟩,
        ?_⟩
      · rw [Url.tagged_eq hu hhttp htag]
      · rw [AmazonLink.split_tagQuery htag, AmazonLink.filter_placeTag]
      · rw [monetized_ofUrl_of_parse? (by rw [hsame, hm]) hread,
          Url.tagged_tagged hback hu hhttp htag, hmonetized]

/-- A no-break space is trimmed before a link is classified, and keeps a URL from being read. The tag
is placed again on every pass. -/
theorem exists_tagged_twice :
    let url := "\u00A0https://amazon.com/dp/X".toList
    ∃ config, Config.build "site-20".toList [] = .ok config ∧
      (∀ u, Url.parse? url = some u → u.ReadsBack) ∧
      (Classification.ofUrl url config).method = .amazon ∧
      let m := (ofUrl url config none).value.monetized
      Url.parse? m = none ∧ m = "\u00A0https://amazon.com/dp/X?tag=site-20".toList ∧
      (ofUrl m config none).value.monetized =
        "\u00A0https://amazon.com/dp/X?tag=site-20&tag=site-20".toList ∧
      (ofUrl m config none).value.monetized ≠ m := by
  have hnone : Url.parse? "\u00A0https://amazon.com/dp/X".toList = none := by decide +kernel
  refine ⟨Config.ofTag "site-20".toList, Config.build_nil _ (by decide), fun u hu => ?_, ?_⟩
  · rw [hnone] at hu
    cases hu
  · decide +kernel

/-- Of several tags the first gives its place to the one tag that stays. -/
theorem retagged_product :
    let url := " https://www.amazon.com/dp/X?tag=a-20&k=v&tag=b-20#top".toList
    ∃ config, Config.build "site-20".toList [] = .ok config ∧
      (Classification.ofUrl url config).method = .amazon ∧
      (∀ u, Url.parse? url = some u → u.ReadsBack) ∧
      let m := (ofUrl url config none).value.monetized
      (Classification.ofUrl m config).merchant = "amazon.com".toList ∧
      (ofUrl m config none).value.monetized = m ∧
      m = "https://www.amazon.com/dp/X?tag=site-20&k=v#top".toList := by
  intro url
  have hbuild := Config.build_nil "site-20".toList (by decide)
  have hclass : Classification.ofUrl url (.ofTag "site-20".toList) =
      ⟨.amazon, "amazon.com".toList⟩ := by decide +kernel
  have hread : (Url.parse? url).all (fun u => Url.parse? u.text = some u) = true := by
    decide +kernel
  have hback : ∀ u, Url.parse? url = some u → u.ReadsBack := by
    intro u hu
    rw [hu, Option.all_some, decide_eq_true_eq] at hread
    exact hread
  have hm := congrArg Classification.method hclass
  obtain ⟨hsame, _, hfixed⟩ := (retagged_iff hbuild url none hm hback).2 (by decide +kernel)
  exact ⟨_, hbuild, hm, hback, congrArg Classification.merchant (hsame.trans hclass), hfixed,
    by decide +kernel⟩

end Link

end AffiliateLinks
