import AffiliateLinks.Proofs.BuiltConfig
import AffiliateLinks.Proofs.Splice

/-!
# Changing the configuration

Where the anchors of a page stand, which links they have and where these lead is read off the page
alone, so that the tags of a page correspond under any two configurations. What is written for a tag
depends on its own link alone. So one more domain that is skipped takes the links to that domain
back, and leaves every other tag as it was written.
-/

namespace AffiliateLinks

namespace Config

variable {d : Text} {c c' : Config}

/-- The second configuration differs from the first by one more domain that it skips. -/
structure AlsoSkips (d : Text) (c c' : Config) : Prop where
  rest : c' = { c with skipDomains := c'.skipDomains }
  skipDomains : ∀ x, x ∈ c'.skipDomains ↔ x = d ∨ x ∈ c.skipDomains

lemma AlsoSkips.isSkippedDomain (h : AlsoSkips d c c') (x : Text) :
    c'.isSkippedDomain x = (x == d || c.isSkippedDomain x) := by
  rw [Bool.eq_iff_iff, Config.isSkippedDomain, Config.isSkippedDomain, Bool.or_eq_true, beq_iff_eq,
    List.contains_iff_mem, List.contains_iff_mem, h.skipDomains]

lemma AlsoSkips.isAmazonDomain (h : AlsoSkips d c c') : c'.isAmazonDomain = c.isAmazonDomain := by
  rw [h.rest]
  rfl

lemma AlsoSkips.skimlinksId (h : AlsoSkips d c c') : c'.skimlinksId = c.skimlinksId := by
  rw [h.rest]

lemma AlsoSkips.rewrite (h : AlsoSkips d c c') (m : Method) (url : Text) (brand : Option Text) :
    m.rewrite url c' brand = m.rewrite url c brand := by
  rw [h.rest]
  rfl

/-- A domain that is named last among the steps is skipped as well, in the form in which domains are
compared, and changes nothing else. -/
theorem alsoSkips_of_build {amazonTag raw : Text} {steps : List Step}
    (h : build amazonTag steps = .ok c)
    (h' : build amazonTag (steps ++ [.skipDomains [raw]]) = .ok c') :
    AlsoSkips (Domain.normalize raw) c c' := by
  have hsteps : Draft.applyAll { amazonTag } (steps ++ [.skipDomains [raw]]) =
      (Draft.applyAll { amazonTag } steps).apply (.skipDomains [raw]) := List.foldl_append
  rw [build, hsteps] at h'
  have hb := Draft.builds_of_build h
  have hb' := Draft.builds_of_build h'
  have hrest : c' = { c with skipDomains := c'.skipDomains } := by
    have hbrands := Except.ok.inj (hb'.brandTags.symm.trans hb.brandTags)
    have hamazon := Except.ok.inj (hb'.amazonDomains.symm.trans hb.amazonDomains)
    have hshort := Except.ok.inj (hb'.shortDomains.symm.trans hb.shortDomains)
    have htag : c'.amazonTag = c.amazonTag := hb'.amazonTag.trans hb.amazonTag.symm
    have hid : c'.skimlinksId = c.skimlinksId := hb'.skimlinksId.trans hb.skimlinksId.symm
    rw [← hbrands, ← hamazon, ← hshort, ← htag, ← hid]
  refine ⟨hrest, fun x => ?_⟩
  rw [mem_buildDomains hb'.skipDomains, mem_buildDomains hb.skipDomains, Draft.apply,
    List.map_append, List.mem_append, List.map_singleton, List.mem_singleton]
  exact or_comm

end Config

namespace Classification

variable (url : Text) {d : Text} {c c' : Config}

lemma merchant_ofUrl (c c' : Config) : (ofUrl url c).merchant = (ofUrl url c').merchant := by
  unfold ofUrl
  dsimp only
  split
  · split <;> rfl
  · rfl

lemma ofMerchant_of_alsoSkips (h : c.AlsoSkips d c') (merchant : Text) :
    ofMerchant merchant c' =
      if merchant = d then ⟨.skipped, merchant⟩ else ofMerchant merchant c := by
  rw [ofMerchant, ofMerchant, h.isSkippedDomain, h.isAmazonDomain, h.skimlinksId]
  by_cases hd : merchant = d <;> simp [hd]

/-- The merchant that is skipped as well is skipped, and no other link is classified otherwise. -/
lemma ofUrl_of_alsoSkips (h : c.AlsoSkips d c') : ofUrl url c' =
    if (ofUrl url c).merchant = d then ⟨.skipped, (ofUrl url c).merchant⟩ else ofUrl url c := by
  unfold ofUrl
  dsimp only
  split
  · split
    · exact ofMerchant_of_alsoSkips h _
    · split <;> rfl
  · split <;> rfl

end Classification

namespace Link

/-- The link as it is when its merchant is skipped. -/
def skipped (l : Link) : Link := { l with monetized := l.original, method := .skipped }

lemma skipped_eq_self {l : Link} (hmonetized : l.monetized = l.original)
    (hmethod : l.method = .skipped) : l.skipped = l := by
  obtain ⟨original, monetized, method, merchant⟩ := l
  cases hmonetized
  cases hmethod
  rfl

variable (value : Text) {d : Text} {c c' : Config}

lemma skipped_ofMarkup (c c' : Config) (brand brand' : Option Text) :
    (ofMarkup value c brand).value.skipped = (ofMarkup value c' brand').value.skipped := by
  have hmerchant := Classification.merchant_ofUrl (Ampersand.decode value) c c'
  change Link.mk value value .skipped (Classification.ofUrl (Ampersand.decode value) c).merchant = _
  rw [hmerchant]
  rfl

variable (brand : Option Text)

lemma method_ofMarkup_of_alsoSkips (h : c.AlsoSkips d c')
    (hd : (ofMarkup value c brand).value.merchant = d) :
    (ofMarkup value c' brand).value.method = .skipped := by
  rw [method_ofMarkup, Classification.ofUrl_of_alsoSkips _ h]
  exact congrArg Classification.method (if_pos hd)

lemma ofMarkup_of_alsoSkips (h : c.AlsoSkips d c')
    (hd : (ofMarkup value c brand).value.merchant ≠ d) :
    ofMarkup value c' brand = ofMarkup value c brand := by
  have hclass : Classification.ofUrl (Ampersand.decode value) c' =
      Classification.ofUrl (Ampersand.decode value) c := by
    rw [Classification.ofUrl_of_alsoSkips _ h]
    exact if_neg hd
  have hlink : ofUrl (Ampersand.decode value) c' brand = ofUrl (Ampersand.decode value) c brand := by
    rw [ofUrl, ofUrl, hclass, h.rewrite]
  rw [ofMarkup, ofMarkup, hlink]

end Link

namespace Splice

/-- The tag as it is when the merchant of its link is skipped. -/
def skipped (s : Splice) : Splice := { s with link := s.link.skipped, written := s.tag }

/-- The tag as it is when a domain is skipped. -/
def skipping (d : Text) (s : Splice) : Splice := if s.link.merchant = d then s.skipped else s

variable (a : Anchor) {d : Text} {c c' : Config}

/-- Nothing that a skipped tag keeps depends on the configuration. -/
lemma skipped_ofAnchor (c c' : Config) (brand brand' : Option Text) :
    (ofAnchor a c brand).skipped = (ofAnchor a c' brand').skipped := by
  have hlink := Link.skipped_ofMarkup a.link c c' brand brand'
  exact congrArg (fun l => Splice.mk [] a.text l a.text) hlink

lemma skipped_ofAnchor_eq_self (brand : Option Text)
    (h : (Link.ofMarkup a.link c brand).value.method = .skipped) :
    (ofAnchor a c brand).skipped = ofAnchor a c brand := by
  have hm : (Link.ofMarkup a.link c brand).value.method.isMonetized = false :=
    Method.isMonetized_eq_false_iff.2 (.inr h)
  have hmonetized := Link.monetized_ofMarkup_of_not_isMonetized a.link c brand hm
  have hwritten : a.rewritten (Link.ofMarkup a.link c brand).value = a.text := by
    rw [Anchor.rewritten_of_not_isMonetized hm, hmonetized]
    rfl
  change Splice.mk [] a.text (Link.skipped (Link.ofMarkup a.link c brand).value) a.text = _
  rw [Link.skipped_eq_self hmonetized h, ofAnchor, hwritten]

lemma ofAnchor_of_alsoSkips (h : c.AlsoSkips d c') (brand : Option Text) :
    ofAnchor a c' brand = (ofAnchor a c brand).skipping d := by
  rw [skipping]
  split
  · next hd =>
    have hmethod := Link.method_ofMarkup_of_alsoSkips a.link brand h hd
    rw [skipped_ofAnchor a c c' brand brand, skipped_ofAnchor_eq_self a brand hmethod]
  · next hd => rw [ofAnchor, ofAnchor, Link.ofMarkup_of_alsoSkips a.link brand h hd]

/-- The change of a tag is the same whatever stands before the tag. -/
def KeepsGap (f : Splice → Splice) : Prop :=
  ∀ k s, f { s with gap := k :: s.gap } = { f s with gap := k :: (f s).gap }

lemma keepsGap_skipping (d : Text) : KeepsGap (skipping d) := by
  intro k s
  unfold skipping
  dsimp only
  split <;> rfl

/-- The tags of a page with the gaps before them, each tag changed on its own. -/
def mapTags (f : Splice → Splice) (p : List Splice × Text) : List Splice × Text := (p.1.map f, p.2)

lemma mapTags_pushGap {f : Splice → Splice} (hf : KeepsGap f) (k : Char)
    (p : List Splice × Text) : mapTags f (pushGap k p) = pushGap k (mapTags f p) := by
  obtain ⟨_ | ⟨s, ss⟩, rest⟩ := p
  · rfl
  · simp only [pushGap, mapTags, List.map_cons, hf k s]

/-- What agrees on each anchor of its own agrees on whole pages. -/
lemma mapTags_ofPieces {f g : Splice → Splice} {brand brand' : Option Text}
    (hf : KeepsGap f) (hg : KeepsGap g)
    (h : ∀ a, f (ofAnchor a c brand) = g (ofAnchor a c' brand')) (ps : List Piece) :
    mapTags f (ofPieces c brand ps) = mapTags g (ofPieces c' brand' ps) := by
  induction ps with
  | nil => rfl
  | cons p ps ih =>
    cases p with
    | char k =>
      rw [ofPieces, ofPieces, mapTags_pushGap hf, mapTags_pushGap hg, ih]
    | anchor a =>
      change (f _ :: (mapTags f (ofPieces c brand ps)).1, (mapTags f (ofPieces c brand ps)).2) = _
      rw [ih, h]
      rfl

section TwoRuns

variable (c c' : Config) (brand brand' : Option Text) (ps : List Piece)

/-- Two runs differ only in what is skipped with a tag. -/
lemma mapTags_skipped_ofPieces :
    mapTags skipped (ofPieces c brand ps) = mapTags skipped (ofPieces c' brand' ps) :=
  mapTags_ofPieces (fun _ _ => rfl) (fun _ _ => rfl)
    (fun a => skipped_ofAnchor a c c' brand brand') ps

lemma rest_ofPieces : (ofPieces c brand ps).2 = (ofPieces c' brand' ps).2 :=
  (Prod.mk.inj (mapTags_skipped_ofPieces c c' brand brand' ps)).2

/-- What a tag keeps when it is skipped is the same for the tags of two runs. -/
lemma map_ofPieces {α : Type} {f : Splice → α} (hf : ∀ s, f s.skipped = f s) :
    (ofPieces c brand ps).1.map f = (ofPieces c' brand' ps).1.map f := by
  have hmap (ss : List Splice) : (ss.map skipped).map f = ss.map f := by
    rw [List.map_map]
    exact List.map_congr_left fun s _ => hf s
  have hsame : (ofPieces c brand ps).1.map skipped = (ofPieces c' brand' ps).1.map skipped :=
    (Prod.mk.inj (mapTags_skipped_ofPieces c c' brand brand' ps)).1
  rw [← hmap, hsame, hmap]

variable {c c'}

lemma ofPieces_of_alsoSkips {d : Text} (h : c.AlsoSkips d c') :
    (ofPieces c' brand ps).1 = (ofPieces c brand ps).1.map (skipping d) := by
  have htags : mapTags id (ofPieces c' brand ps) = mapTags (skipping d) (ofPieces c brand ps) :=
    mapTags_ofPieces (fun _ _ => rfl) (keepsGap_skipping d)
      (fun a => ofAnchor_of_alsoSkips a h brand) ps
  have hmap : (ofPieces c' brand ps).1.map id = (ofPieces c brand ps).1.map (skipping d) :=
    (Prod.mk.inj htags).1
  rwa [List.map_id] at hmap

end TwoRuns

end Splice

namespace MonetizedPage

/-- The page is made of these tags and gaps, and of what follows the last tag. -/
structure IsSpliced (page : MonetizedPage) (html : Text) (config : Config) (splices : List Splice)
    (rest : Text) : Prop where
  source : html = Splice.source splices ++ rest
  output : page.html = Splice.output splices ++ rest
  links : page.links = splices.map Splice.link
  faithful : ∀ s ∈ splices, s.IsFaithful config

lemma isSpliced_ofHtml (html : Text) (config : Config) (brand : Option Text) :
    (ofHtml html config brand).value.IsSpliced html config
      (Splice.ofPieces config brand (Page.pieces html)).1
      (Splice.ofPieces config brand (Page.pieces html)).2 where
  source := by rw [Splice.source_ofPieces, Page.flatMap_text_pieces]
  output := (Splice.output_ofPieces config brand (Page.pieces html)).symm
  links := (Splice.map_link_ofPieces config brand (Page.pieces html)).symm
  faithful := Splice.isFaithful_ofPieces config brand html

/-- Under any two configurations a page has the same links with the same merchants and the same text
between its tags. If the second skips one more domain, then the tags whose links lead there are
skipped, and every other tag has the same link and is written in the same way. -/
theorem ofHtml_two_configs (html : Text) (c c' : Config) (brand brand' : Option Text) :
    let page := (ofHtml html c brand).value
    let page' := (ofHtml html c' brand').value
    ∃ (splices splices' : List Splice) (rest : Text),
      page.IsSpliced html c splices rest ∧ page'.IsSpliced html c' splices' rest ∧
      page.links.length = page'.links.length ∧
      page.links.map Link.original = page'.links.map Link.original ∧
      page.links.map Link.merchant = page'.links.map Link.merchant ∧
      splices.map Splice.gap = splices'.map Splice.gap ∧
      splices.map Splice.tag = splices'.map Splice.tag ∧
      ∀ d, c.AlsoSkips d c' → brand = brand' → splices' = splices.map (Splice.skipping d) := by
  intro page page'
  let ps := Page.pieces html
  let first := Splice.ofPieces c brand ps
  let second := Splice.ofPieces c' brand' ps
  have hfirst : page.IsSpliced html c first.1 first.2 := isSpliced_ofHtml html c brand
  have hsecond : page'.IsSpliced html c' second.1 first.2 := by
    have hrest : first.2 = second.2 := Splice.rest_ofPieces c c' brand brand' ps
    rw [hrest]
    exact isSpliced_ofHtml html c' brand'
  have hkept {α : Type} (f : Splice → α) (hf : ∀ s, f s.skipped = f s) :
      first.1.map f = second.1.map f := Splice.map_ofPieces c c' brand brand' ps hf
  have hlinks {α : Type} (f : Link → α) (hf : ∀ l, f l.skipped = f l) :
      page.links.map f = page'.links.map f := by
    rw [hfirst.links, hsecond.links, List.map_map, List.map_map]
    exact hkept (f ∘ Splice.link) fun s => hf s.link
  have horiginal := hlinks Link.original fun _ => rfl
  have hlength : page.links.length = page'.links.length := by
    rw [← List.length_map Link.original, horiginal, List.length_map]
  refine ⟨first.1, second.1, first.2, hfirst, hsecond, hlength, horiginal,
    hlinks Link.merchant fun _ => rfl, hkept Splice.gap fun _ => rfl,
    hkept Splice.tag fun _ => rfl, ?_⟩
  rintro d hskips rfl
  exact Splice.ofPieces_of_alsoSkips brand ps hskips

/-- Once its domain is skipped, a short link is as it was, and the link before it keeps its tag. -/
theorem ofHtml_two_configs_short :
    let html := "<a href=\"https://amazon.com/x\">x</a> <a href='http://AMZN.to/y'>y</a>".toList
    let x := "<a href=\"https://amazon.com/x?tag=site-20\" rel=\"nofollow sponsored\">x</a> ".toList
    ∃ c c', Config.build "site-20".toList [] = .ok c ∧
      Config.build "site-20".toList [.skipDomains ["www.Amzn.to".toList]] = .ok c' ∧
      c.AlsoSkips "amzn.to".toList c' ∧
      (∃ (splices splices' : List Splice) (rest : Text),
        (ofHtml html c none).value.IsSpliced html c splices rest ∧
        (ofHtml html c' none).value.IsSpliced html c' splices' rest ∧
        splices' = splices.map (Splice.skipping "amzn.to".toList)) ∧
      (ofHtml html c none).value.html =
        x ++ "<a href='http://amzn.to/y?tag=site-20' rel=\"nofollow sponsored\">y</a>".toList ∧
      (ofHtml html c' none).value.html = x ++ "<a href='http://AMZN.to/y'>y</a>".toList := by
  intro html x
  let c := Config.ofTag "site-20".toList
  let c' := { c with skipDomains := Text.insert "amzn.to".toList c.skipDomains }
  have hbuild : Config.build "site-20".toList [] = .ok c := Config.build_nil _ (by decide)
  have hbuild' : Config.build "site-20".toList [.skipDomains ["www.Amzn.to".toList]] = .ok c' := by
    rfl
  have hskips : c.AlsoSkips "amzn.to".toList c' := Config.alsoSkips_of_build hbuild hbuild'
  obtain ⟨splices, splices', rest, h, h', -, -, -, -, -, hmap⟩ :=
    ofHtml_two_configs html c c' none none
  exact ⟨c, c', hbuild, hbuild', hskips, ⟨splices, splices', rest, h, h', hmap _ hskips rfl⟩,
    by decide +kernel, by decide +kernel⟩

end MonetizedPage

end AffiliateLinks
