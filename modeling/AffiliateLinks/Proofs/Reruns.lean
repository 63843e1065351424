import AffiliateLinks.Proofs.Documents
import AffiliateLinks.Proofs.OpenTags
import AffiliateLinks.Proofs.SettledLinks

/-!
# Monetizing a page again

A page that was monetized may be given to the monetizer once more. Where every anchor of the page is
read whole, it is read again from what was written for it, with the link that was written there and
with the mark of a sponsored target. Main statement: if these links stay as they were written, so does
the page.
-/

namespace AffiliateLinks

namespace Page

/-- A page in which everything that begins like an anchor is a tag that is read whole. -/
inductive IsWhole : Text → Prop
  | nil : IsWhole []
  | char {c : Char} {t : Text} (h : opensAnchor (c :: t) = false) (ht : IsWhole t) : IsWhole (c :: t)
  | tag (tag : OpenTag) {t : Text} (ht : IsWhole t) : IsWhole (tag.text ++ t)

lemma anchors_char {c : Char} {t : Text} (h : Anchor.read? (c :: t) = none) :
    anchors (c :: t) = anchors t := by
  rw [anchors, pieces_char h, anchors]
  rfl

lemma anchors_anchor {a : Anchor} {t : Text} (h : Anchor.read? (a.text ++ t) = some a) :
    anchors (a.text ++ t) = a :: anchors t := by
  rw [anchors, pieces_anchor h, anchors]
  rfl

lemma anchors_silent {s : Text} (h : Silent s) (t : Text) : anchors (s ++ t) = anchors t := by
  induction s with
  | nil => rfl
  | cons c s ih => exact (anchors_char (h.1 t)).trans (ih h.2)

end Page

/-- A tag without a link is passed over. -/
lemma OpenTag.silent {tag : OpenTag} (h : ∀ a ∈ tag.attributes, a.link? = none) : Silent tag.text := by
  constructor
  · exact tag.read?_eq_none h
  · apply Silent.of_not_mem
    rw [List.mem_cons, not_or]
    exact ⟨tag.bracket_ne_letter, tag.bracket_not_mem_rest⟩

/-- Whether an anchor begins at a character is seen at the next two. -/
lemma opensAnchor_take (c : Char) (t : Text) : opensAnchor (c :: t.take 2) = opensAnchor (c :: t) := by
  match t with
  | [] => rfl
  | [_] => rfl
  | _ :: _ :: _ => rfl

namespace MonetizedPage

variable {config : Config} {brand : Option Text} {s t : Text} {c : Char} {a : Anchor}

lemma ofHtml_char (h : Anchor.read? (c :: t) = none) : (ofHtml (c :: t) config brand).value =
    ⟨c :: (ofHtml t config brand).value.html, (ofHtml t config brand).value.links⟩ := by
  change (ofPieces config brand (Page.pieces (c :: t))).value = _
  rw [Page.pieces_char h]
  rfl

lemma ofHtml_anchor (h : Anchor.read? (a.text ++ t) = some a) :
    (ofHtml (a.text ++ t) config brand).value =
      ⟨a.rewritten (Link.ofMarkup a.link config brand).value ++ (ofHtml t config brand).value.html,
        (Link.ofMarkup a.link config brand).value :: (ofHtml t config brand).value.links⟩ := by
  change (ofPieces config brand (Page.pieces (a.text ++ t))).value = _
  rw [Page.pieces_anchor h]
  rfl

lemma ofHtml_silent (h : Silent s) (t : Text) : (ofHtml (s ++ t) config brand).value =
    ⟨s ++ (ofHtml t config brand).value.html, (ofHtml t config brand).value.links⟩ := by
  induction s with
  | nil => rfl
  | cons c s ih =>
    rw [List.cons_append, ofHtml_char (h.1 t), ih h.2]
    rfl

end MonetizedPage

/-- The link of the anchor is read back from what is written for it, and stays between its quotes. -/
structure Anchor.IsSettled (a : Anchor) (config : Config) (brand : Option Text) : Prop where
  link : Link.IsSettled a.link config brand
  quoted : ∀ q ∈ a.after.head?, q ∉ (Link.ofMarkup a.link config brand).value.monetized

instance (a : Anchor) (config : Config) (brand : Option Text) :
    Decidable (a.IsSettled config brand) :=
  decidable_of_iff (Link.IsSettled a.link config brand ∧ (a.after.head?.all fun q =>
      q ∉ (Link.ofMarkup a.link config brand).value.monetized) = true) <| by
    simp only [Option.all_eq_true, decide_eq_true_eq]
    exact ⟨fun h => ⟨h.1, h.2⟩, fun h => ⟨h.link, h.quoted⟩⟩

/-- The anchor has no link that is wrapped again each time, and one to Amazon is settled. -/
structure Anchor.IsSteady (a : Anchor) (config : Config) (brand : Option Text) : Prop where
  skimlinks : (Link.ofMarkup a.link config brand).value.method ≠ .skimlinks
  readsBack : ∀ u ∈ Url.parse? (Ampersand.decode a.link), u.IsHttp → u.ReadsBack
  settled : (Link.ofMarkup a.link config brand).value.method = .amazon → a.IsSettled config brand

namespace LinkedTag

variable {tag : LinkedTag} {config : Config} {brand : Option Text}

/-- A tag with the link that is written for it, and with the mark that such a link needs, stays. -/
lemma rewritten_eq_text {link : Link} (hlink : link.monetized = tag.link.text)
    (hrel : link.method.isMonetized = true → tag.hasRel = true) :
    tag.anchor.rewritten link = tag.text := by
  have htext : tag.anchor.withLink link.monetized = tag.text := by
    rw [hlink]
    exact tag.text_anchor
  rw [Anchor.rewritten, htext, tag.hasRel_text, if_neg]
  cases hm : link.method.isMonetized with
  | false => simp
  | true => simp [hrel hm]

/-- What is written for a steady anchor is a tag that is written as it is. -/
theorem exists_rewritten (hconfig : config.IsChecked) (h : tag.anchor.IsSteady config brand) :
    let link := (Link.ofMarkup tag.link.text config brand).value
    ∃ tag' : LinkedTag, tag.anchor.rewritten link = tag'.text ∧ tag'.letter = tag.letter ∧
      (Link.ofMarkup tag'.link.text config brand).value = link.reread ∧
      tag'.anchor.rewritten link.reread = tag'.text := by
  intro link
  have hlink (hm : link.method = .amazon) := (h.settled hm).link
  have hreread : (Link.ofMarkup link.monetized config brand).value = link.reread :=
    Link.ofMarkup_monetized hconfig h.skimlinks h.readsBack hlink
  have hopen : '<' ∉ link.monetized :=
    Link.bracket_not_mem_monetized hconfig h.skimlinks h.readsBack hlink tag.bracket_not_mem_link
  have hquote : tag.link.quote ∉ link.monetized := by
    by_cases hm : link.method = .amazon
    · exact (h.settled hm).quoted _ rfl
    · have hkept : link.monetized = tag.link.text := Link.monetized_ofMarkup_of_not_isMonetized _ _ _
        (Link.isMonetized_eq_false_of_ne hm h.skimlinks)
      rw [hkept]
      exact tag.link.quote_not_mem
  let tag' := tag.withLink link.monetized hquote hopen
  have hrewritten : tag.anchor.rewritten link = _ := rewritten_anchor hquote hopen
  by_cases hmark : (link.method.isMonetized && !tag.hasRel) = true
  · rw [if_pos hmark] at hrewritten
    exact ⟨tag'.marked, hrewritten, rfl, hreread, rewritten_eq_text rfl fun _ => tag'.hasRel_marked⟩
  · rw [if_neg hmark] at hrewritten
    refine ⟨tag', hrewritten, rfl, hreread, rewritten_eq_text rfl fun hm => ?_⟩
    have hm : link.method.isMonetized = true := hm
    rw [hm, Bool.true_and, Bool.not_eq_true', Bool.not_eq_false] at hmark
    rw [hasRel_withLink, hmark]

end LinkedTag

namespace MonetizedPage

variable {config : Config} {brand : Option Text}

/-- What is written for a page of tags that are read whole, with steady links, stays as it is. It
begins with the characters that the page began with, so that no anchor comes to begin before it. -/
lemma ofHtml_of_isWhole (hconfig : config.IsChecked) {html : Text} (hpage : Page.IsWhole html)
    (h : ∀ a ∈ Page.anchors html, a.IsSteady config brand) :
    let first := (ofHtml html config brand).value
    first.html.take 2 = html.take 2 ∧ (ofHtml first.html config brand).value =
      ⟨first.html, first.links.map Link.reread⟩ := by
  induction hpage with
  | nil => exact ⟨rfl, rfl⟩
  | @char c t hc _ ih =>
    have hread := Anchor.read?_eq_none hc
    rw [Page.anchors_char hread] at h
    obtain ⟨htake, ih⟩ := ih h
    have hagain : opensAnchor (c :: (ofHtml t config brand).value.html) = false := by
      rw [← opensAnchor_take, htake, opensAnchor_take, hc]
    rw [ofHtml_char hread]
    constructor
    · have htake := congrArg (List.take 1) htake
      rw [List.take_take, List.take_take] at htake
      exact congrArg (c :: ·) htake
    · rw [ofHtml_char (Anchor.read?_eq_none hagain), ih]
  | @tag tag t _ ih =>
    rcases tag.linked with hlink | ⟨tag, rfl⟩
    · have hsilent := OpenTag.silent hlink
      rw [Page.anchors_silent hsilent] at h
      obtain ⟨_, ih⟩ := ih h
      rw [ofHtml_silent hsilent]
      refine ⟨rfl, ?_⟩
      rw [ofHtml_silent hsilent, ih]
    · have hread (tag : LinkedTag) (t : Text) :
          Anchor.read? (tag.anchor.text ++ t) = some tag.anchor := by
        rw [tag.text_anchor, tag.read?_append]
      rw [← tag.text_anchor, Page.anchors_anchor (hread tag t), List.forall_mem_cons] at h
      obtain ⟨_, ih⟩ := ih h.2
      obtain ⟨tag', hrewritten, hletter, hlink, hkept⟩ := LinkedTag.exists_rewritten hconfig h.1
      have hfirst : (ofHtml (tag.text ++ t) config brand).value =
          ⟨tag'.text ++ (ofHtml t config brand).value.html,
            (Link.ofMarkup tag.link.text config brand).value :: (ofHtml t config brand).value.links⟩ := by
        rw [← tag.text_anchor, ofHtml_anchor (hread tag t), ← hrewritten]
        rfl
      rw [hfirst]
      constructor
      · rw [RenderedTag.text, RenderedTag.text, hletter]
        rfl
      · have hlink : (Link.ofMarkup tag'.anchor.link config brand).value = _ := hlink
        rw [← tag'.text_anchor, ofHtml_anchor (hread tag' _), ih, hlink, hkept, tag'.text_anchor]
        rfl

/-- A page whose anchors are read whole, without a link that is wrapped again each time, is monetized
once: where its links to Amazon are settled, a second run reads the same links from the page and
leaves it as it is. -/
theorem ofHtml_ofHtml {amazonTag : Text} {steps : List Config.Step} {config : Config}
    (hbuild : Config.build amazonTag steps = .ok config) (brand : Option Text) {html : Text}
    (hpage : Page.IsWhole html)
    (hskim : ∀ link ∈ (ofHtml html config brand).value.links, link.method ≠ .skimlinks)
    (hback : ∀ a ∈ Page.anchors html, ∀ u ∈ Url.parse? (Ampersand.decode a.link),
      u.IsHttp → u.ReadsBack)
    (hsettled : ∀ a ∈ Page.anchors html,
      (Link.ofMarkup a.link config brand).value.method = .amazon → a.IsSettled config brand) :
    let first := (ofHtml html config brand).value
    (ofHtml first.html config brand).value = ⟨first.html, first.links.map Link.reread⟩ := by
  have hsteady : ∀ a ∈ Page.anchors html, a.IsSteady config brand := by
    intro a ha
    refine ⟨hskim _ ?_, hback a ha, hsettled a ha⟩
    rw [links_ofHtml]
    exact List.mem_map_of_mem ha
  exact (ofHtml_of_isWhole (Config.isChecked_of_build hbuild) hpage hsteady).2

/-- Attributes of every kind around a link with references, and anchors that keep what they are. -/
theorem ofHtml_ofHtml_page :
    let html := "<a name=top>x <a class=ext ".toList ++
      "href=\"https://amazon.com/?k=v&amp;s=1\" ".toList ++
      "title='a > b' target=_blank>y</a>".toList ++ "<a href='/z' rel=\"x\" />".toList
    ∃ config, Config.build "site-20".toList [] = .ok config ∧ Page.IsWhole html ∧
      let first := (ofHtml html config none).value
      first.links.map Link.method = [.amazon, .skipped] ∧
      (ofHtml first.html config none).value = ⟨first.html, first.links.map Link.reread⟩ ∧
      first.html = "<a name=top>x <a class=ext ".toList ++
        "href=\"https://amazon.com/?k=v&amp;s=1&amp;tag=site-20\" ".toList ++
        "title='a > b' target=_blank rel=\"nofollow sponsored\">y</a>".toList ++
        "<a href='/z' rel=\"x\" />".toList := by
  intro html
  let top : OpenTag :=
    { attributes := [{ name := "name".toList, assignment := .bare { text := "top".toList } }]
      closed := by
        rintro a ⟨⟩ v ⟨⟩
        decide }
  let link : QuotedValue := { text := "https://amazon.com/?k=v&amp;s=1".toList }
  let title : QuotedValue := { quote := '\'', text := "a > b".toList }
  let product : OpenTag :=
    { attributes :=
        [{ name := "class".toList, assignment := .bare { text := "ext".toList } },
          { name := "href".toList, assignment := .quoted link },
          { name := "title".toList, assignment := .quoted title },
          { name := "target".toList, assignment := .bare { text := "_blank".toList } }]
      closed := by
        rintro a ⟨⟩ v ⟨⟩
        decide }
  let page : OpenTag :=
    { attributes :=
        [{ name := "href".toList, assignment := .quoted { quote := '\'', text := "/z".toList } },
          { name := "rel".toList, assignment := .quoted { text := "x".toList } }]
      space := [' ']
      slash := true
      closed := by
        rintro a ⟨⟩ v ⟨⟩ }
  have hbuild : Config.build "site-20".toList [] = .ok (.ofTag "site-20".toList) :=
    Config.build_nil _ (by decide)
  have htext : html = top.text ++ ('x' :: ' ' :: (product.text ++ ('y' :: '<' :: '/' :: 'a' :: '>' ::
      (page.text ++ [])))) := by decide +kernel
  have hpage : Page.IsWhole html := by
    rw [htext]
    refine .tag top (.char rfl (.char rfl (.tag product ?_)))
    exact .char rfl (.char rfl (.char rfl (.char rfl (.char rfl (.tag page .nil)))))
  have hmethods : (ofHtml html (.ofTag "site-20".toList) none).value.links.map Link.method =
      [.amazon, .skipped] := by decide +kernel
  have hanchors : Page.anchors html =
      [⟨"<a class=ext href=\"".toList, link.text, "\" title='a > b' target=_blank>".toList⟩,
        ⟨"<a href='".toList, "/z".toList, "' rel=\"x\" />".toList⟩] := by decide +kernel
  have hback : ∀ a ∈ Page.anchors html, ∀ u ∈ Url.parse? (Ampersand.decode a.link),
      u.IsHttp → u.ReadsBack := by
    rw [hanchors]
    decide +kernel
  have hsettled : ∀ a ∈ Page.anchors html,
      (Link.ofMarkup a.link (.ofTag "site-20".toList) none).value.method = .amazon →
        a.IsSettled (.ofTag "site-20".toList) none := by
    rw [hanchors]
    decide +kernel
  have hskim : ∀ link ∈ (ofHtml html (.ofTag "site-20".toList) none).value.links,
      link.method ≠ .skimlinks := by
    intro link hlink hskim
    have hmem := List.mem_map_of_mem (f := Link.method) hlink
    rw [hmethods, hskim] at hmem
    exact absurd hmem (by decide)
  exact ⟨_, hbuild, hpage, hmethods, ofHtml_ofHtml hbuild none hpage hskim hback hsettled,
    by decide +kernel⟩

/-- The mark of a sponsored target is written again behind a quote that is not closed, and behind a
value that takes it in. A link in the text of an unclosed value is found only once the value is closed by
the quotes of the mark, and a reference that comes about by accident is written by its name. -/
theorem exists_ofHtml_ofHtml_ne :
    let pages := ["<a href=\"https://amazon.com/dp/X\" title=\"5>x</a><p class=\"y\">",
      "<a href=\"https://amazon.com/\" x=/>",
      "<a href=\"https://amazon.com/y\" title=\"y> z <a href=\"https://amazon.com/\">",
      "<a href=\"https://amazon.com/?a&am\np;b=1\">"]
    ∃ config, Config.build "site-20".toList [] = .ok config ∧ ∀ page ∈ pages,
      let first := (ofHtml page.toList config none).value
      (∀ link ∈ first.links, link.method ≠ .skimlinks) ∧
        (ofHtml first.html config none).value.html ≠ first.html := by
  intro pages
  exact ⟨.ofTag "site-20".toList, Config.build_nil _ (by decide), by decide +kernel⟩

end MonetizedPage

end AffiliateLinks
