import AffiliateLinks.Proofs.QuotedLinks
import AffiliateLinks.Proofs.References
import AffiliateLinks.Proofs.Retagging

/-!
# Links that stay as they were written

A page that was monetized may be monetized again. A link to Amazon is read back from what was written
for it if the white space around it makes no difference to its domain and what was written holds no
reference by accident; every other link is written as it was. Main statement: such a link is then
written as it stands.
-/

namespace AffiliateLinks

namespace Url

/-- No opening bracket is written in a URL. -/
lemma bracket_not_mem_text_tagged {t tag : Text} {u : Url} (h : parse? t = some u) (hu : u.IsHttp)
    (htag : Tag.isValid tag = true) : '<' ∉ (u.tagged tag).text := by
  have hplain := Tag.isPlain_of_isValid htag
  have hscheme : '<' ∉ u.scheme := fun hc => (isFrontChar_of_mem_scheme hu hc).2.2.2 rfl
  have hhierarchy : '<' ∉ u.hierarchy := fun hc => (isFrontChar_of_mem_hierarchy h hu hc).2.2.2 rfl
  have hquery : '<' ∉ AmazonLink.tagQuery tag (u.query.getD []) := fun hc =>
    absurd (specialQuery_of_mem_tagged h hu hplain hc) (by decide)
  have hfragment : '<' ∉ fragmentText u.fragment := by
    intro hc
    cases hf : u.fragment with
    | none =>
      rw [hf] at hc
      cases hc
    | some f =>
      rw [hf] at hc
      rcases List.mem_cons.1 hc with hc | hc
      · exact absurd hc (by decide)
      · rcases mem_fragment h hu hf hc with ⟨_, hset⟩ | hc
        · exact absurd hset (by decide)
        · exact hc.isFrontChar.2.2.2 rfl
  rw [text_tagged h hu hplain]
  simp only [List.mem_append, List.mem_cons, not_or]
  exact ⟨hscheme, by decide, ⟨hhierarchy, by decide, hquery⟩, hfragment⟩

end Url

namespace Link

variable {config : Config} {url : Text}

/-- A tagged URL is routed as the URL was, and tagging it again changes nothing. -/
lemma monetized_monetized (brand : Option Text) (hconfig : config.IsChecked)
    (hm : (Classification.ofUrl url config).method = .amazon)
    (hback : ∀ u ∈ Url.parse? url, u.IsHttp → u.ReadsBack)
    (hdomain : Url.domain? url = Url.domain? (Text.trim url)) :
    let m := (ofUrl url config brand).value.monetized
    Classification.ofUrl m config = Classification.ofUrl url config ∧
      (ofUrl m config brand).value.monetized = m ∧ '<' ∉ m := by
  intro m
  have htag := hconfig.tagFor brand
  have hskipped : (Classification.ofUrl url config).method ≠ .skipped := by
    rw [hm]
    decide
  obtain ⟨u, hu⟩ : ∃ u, Url.parse? url = some u := by
    obtain ⟨_, d, hd, _⟩ := Classification.ofUrl_of_not_skipped hskipped
    apply Option.ne_none_iff_exists'.1
    intro hnone
    rw [Url.domain?_of_none hnone, hd] at hdomain
    cases hdomain
  have hhttp := Classification.isHttp_of_parse? hskipped hu
  have hback := hback u hu hhttp
  have hmonetized : m = (u.tagged (config.tagFor brand)).text := monetized_ofUrl_of_parse? hm hu
  have hread : Url.parse? m = some (u.tagged (config.tagFor brand)) := by
    rw [hmonetized]
    exact hback.tagged hu hhttp htag
  have hclass : Classification.ofUrl m config = Classification.ofUrl url config := by
    rw [hmonetized, ofUrl_text_tagged config hu hhttp htag hback]
    exact (Classification.ofUrl_eq_iff hskipped).2 hdomain
  refine ⟨hclass, ?_, hmonetized ▸ Url.bracket_not_mem_text_tagged hu hhttp htag⟩
  rw [monetized_ofUrl_of_parse? (by rw [hclass, hm]) hread, Url.tagged_tagged hback hu hhttp htag,
    hmonetized]

/-- The link as it is read from the page that it was written into. -/
def reread (l : Link) : Link := { l with original := l.monetized }

/-- What is written for a link to Amazon is read back as the URL that was meant: white space at the
ends does not hide its domain, and nothing in it becomes a reference by accident. -/
structure IsSettled (value : Text) (config : Config) (brand : Option Text) : Prop where
  domain : Url.domain? (Ampersand.decode value) = Url.domain? (Text.trim (Ampersand.decode value))
  references : Ampersand.decode value = value →
    Ampersand.decode (ofMarkup value config brand).value.monetized =
      (ofMarkup value config brand).value.monetized

instance (value : Text) (config : Config) (brand : Option Text) :
    Decidable (IsSettled value config brand) :=
  decidable_of_iff (_ ∧ _) ⟨fun h => ⟨h.1, h.2⟩, fun h => ⟨h.domain, h.references⟩⟩

lemma isMonetized_eq_false_of_ne {m : Method} (hamazon : m ≠ .amazon) (hskim : m ≠ .skimlinks) :
    m.isMonetized = false := by
  cases m with
  | amazon => exact absurd rfl hamazon
  | skimlinks => exact absurd rfl hskim
  | passthrough => rfl
  | skipped => rfl

variable {brand : Option Text} {value : Text} (hconfig : config.IsChecked)
  (hskim : (ofMarkup value config brand).value.method ≠ .skimlinks)
  (hback : ∀ u ∈ Url.parse? (Ampersand.decode value), u.IsHttp → u.ReadsBack)
  (hsettled : (ofMarkup value config brand).value.method = .amazon → IsSettled value config brand)

include hconfig hskim hback hsettled

/-- A settled link is written as it stands when its page is monetized again. -/
theorem ofMarkup_monetized :
    let link := (ofMarkup value config brand).value
    (ofMarkup link.monetized config brand).value = link.reread := by
  intro link
  by_cases hm : link.method = .amazon
  · obtain ⟨hdomain, hreferences⟩ := hsettled hm
    obtain ⟨hclass, hsame, _⟩ := monetized_monetized brand hconfig hm hback hdomain
    generalize hmeant : (ofUrl (Ampersand.decode value) config brand).value.monetized = m at hclass hsame
    have hwritten : link.monetized =
        if Ampersand.decode value ≠ value then Ampersand.encode m else m := by
      rw [monetized_ofMarkup_of_isMonetized _ _ _ (Method.isMonetized_iff.2 (.inl hm)), hmeant]
    have hdecode : Ampersand.decode link.monetized = m := by
      by_cases hvalue : Ampersand.decode value = value
      · rw [hreferences hvalue, hwritten, if_neg (not_not_intro hvalue)]
      · rw [hwritten, if_pos hvalue, Ampersand.decode_encode]
    have hmethod : (ofMarkup link.monetized config brand).value.method = .amazon := by
      rw [method_ofMarkup, hdecode, hclass]
      exact hm
    have hagain : (ofMarkup link.monetized config brand).value.monetized = link.monetized := by
      rw [monetized_ofMarkup_of_isMonetized _ _ _ (Method.isMonetized_iff.2 (.inl hmethod)), hdecode,
        hsame]
      by_cases hm : m = link.monetized
      · rw [if_neg (not_not_intro hm), hm]
      · have hvalue : Ampersand.decode value ≠ value := by
          intro hvalue
          apply hm
          rw [hwritten, if_neg (not_not_intro hvalue)]
        rw [if_pos hm, hwritten, if_pos hvalue]
    change Link.mk _ (ofMarkup link.monetized config brand).value.monetized
      (Classification.ofUrl (Ampersand.decode link.monetized) config).method
      (Classification.ofUrl (Ampersand.decode link.monetized) config).merchant = _
    rw [hagain, hdecode, hclass]
    rfl
  · have hkept : link.monetized = value :=
      monetized_ofMarkup_of_not_isMonetized _ _ _ (isMonetized_eq_false_of_ne hm hskim)
    have hlink : link.reread = link := by
      change Link.mk link.monetized _ _ _ = Link.mk value link.monetized link.method link.merchant
      rw [hkept]
    rw [hlink, hkept]

/-- No opening bracket is written for a link that holds none. -/
theorem bracket_not_mem_monetized (hvalue : '<' ∉ value) :
    '<' ∉ (ofMarkup value config brand).value.monetized := by
  by_cases hm : (ofMarkup value config brand).value.method = .amazon
  · obtain ⟨_, _, hopen⟩ := monetized_monetized brand hconfig hm hback (hsettled hm).domain
    rw [monetized_ofMarkup_of_isMonetized _ _ _ (Method.isMonetized_iff.2 (.inl hm))]
    split
    · rwa [Ampersand.mem_encode_iff (by decide)]
    · exact hopen
  · rwa [monetized_ofMarkup_of_not_isMonetized _ _ _ (isMonetized_eq_false_of_ne hm hskim)]

end Link

end AffiliateLinks
