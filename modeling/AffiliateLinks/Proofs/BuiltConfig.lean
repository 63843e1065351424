import AffiliateLinks.Config
import AffiliateLinks.Proofs.Steps

/-!
# Built configurations

Building checks the tag, the publisher and the brands' tags, so that every configuration that was
built holds texts that can stand in the query of a URL as they are.
-/

namespace AffiliateLinks

lemma Text.mem_sorted {t : Text} {ts : List Text} : t ∈ Text.sorted ts ↔ t ∈ ts := by
  have hfold (us : List Text) :
      t ∈ ts.foldl (fun us t => Text.insert t us) us ↔ t ∈ ts ∨ t ∈ us := by
    induction ts generalizing us with
    | nil => simp
    | cons u ts ih =>
      rw [List.foldl_cons, ih, Text.mem_insert, List.mem_cons]
      grind
  rw [Text.sorted, hfold]
  simp

namespace Tag

lemma check_eq_ok_iff {t : Text} : check t = .ok () ↔ isValid t = true := by
  unfold check
  split <;> simp_all

end Tag

namespace Config

/-- Every tag that links can get, and the publisher, passed its check. -/
structure IsChecked (c : Config) : Prop where
  amazonTag : Tag.isValid c.amazonTag = true
  brandTags : ∀ p ∈ c.brandTags, Tag.isValid p.2 = true
  skimlinksId : ∀ id ∈ c.skimlinksId, id.all Char.isAlphanum = true

namespace Draft

lemma checkSkimlinksId_eq_ok_iff {o : Option Text} :
    checkSkimlinksId o = .ok () ↔ ∀ id ∈ o, id.all Char.isAlphanum = true := by
  cases o with
  | none => simp [checkSkimlinksId]
  | some id =>
    unfold checkSkimlinksId
    split <;> simp_all

lemma build_eq (d : Draft) : d.build =
    if (Text.trim d.amazonTag).isEmpty then .error .missingAmazonTag
    else (Tag.check (Text.trim d.amazonTag)).bind fun _ =>
      (checkSkimlinksId d.skimlinksId).bind fun _ =>
      (buildBrandTags [] d.brandTags).bind fun brandTags =>
      (buildDomains d.skipDomains).bind fun skipDomains =>
      (buildDomains d.amazonDomains).bind fun amazonDomains =>
      (buildDomains d.shortDomains).bind fun shortDomains =>
      .ok { amazonTag := Text.trim d.amazonTag, skimlinksId := d.skimlinksId, skipDomains,
            amazonDomains, shortDomains, brandTags } := by
  by_cases h : (Text.trim d.amazonTag).isEmpty = true
  · rw [if_pos h]
    exact if_pos h
  · rw [if_neg h]
    exact if_neg h

lemma buildBrandTags_cons (tags : BrandTags) (brand tag : Text) (rest : List (Text × Text)) :
    buildBrandTags tags ((brand, tag) :: rest) =
      if (Text.trim brand).isEmpty then .error .emptyBrandKey
      else (Tag.check (Text.trim tag)).bind fun _ =>
        buildBrandTags (tags.insert (Text.trim brand) (Text.trim tag)) rest := by
  by_cases h : (Text.trim brand).isEmpty = true
  · rw [if_pos h]
    exact if_pos h
  · rw [if_neg h]
    exact if_neg h

/-- What is between a draft and the configuration that is built from it. -/
structure Builds (d : Draft) (c : Config) : Prop where
  amazonTag : c.amazonTag = Text.trim d.amazonTag
  checkedTag : Tag.check c.amazonTag = .ok ()
  skimlinksId : c.skimlinksId = d.skimlinksId
  checkedId : checkSkimlinksId c.skimlinksId = .ok ()
  brandTags : buildBrandTags [] d.brandTags = .ok c.brandTags
  skipDomains : buildDomains d.skipDomains = .ok c.skipDomains
  amazonDomains : buildDomains d.amazonDomains = .ok c.amazonDomains
  shortDomains : buildDomains d.shortDomains = .ok c.shortDomains

lemma builds_of_build {d : Draft} {c : Config} (h : d.build = .ok c) : d.Builds c := by
  rw [build_eq] at h
  split at h
  · cases h
  obtain ⟨_, htag, h⟩ := bind_eq_ok_iff.1 h
  obtain ⟨_, hid, h⟩ := bind_eq_ok_iff.1 h
  obtain ⟨brandTags, hbrands, h⟩ := bind_eq_ok_iff.1 h
  obtain ⟨skipDomains, hskip, h⟩ := bind_eq_ok_iff.1 h
  obtain ⟨amazonDomains, hamazon, h⟩ := bind_eq_ok_iff.1 h
  obtain ⟨shortDomains, hshort, h⟩ := bind_eq_ok_iff.1 h
  cases h
  exact ⟨rfl, htag, rfl, hid, hbrands, hskip, hamazon, hshort⟩

end Draft

lemma mem_of_mem_insert {brand tag : Text} {tags : BrandTags} {p : Text × Text}
    (h : p ∈ tags.insert brand tag) : p = (brand, tag) ∨ p ∈ tags := by
  induction tags with
  | nil => exact .inl (List.mem_singleton.1 h)
  | cons q tags ih =>
    obtain ⟨b, t⟩ := q
    rw [BrandTags.insert] at h
    split at h
    · next hb =>
      rcases List.mem_cons.1 h with rfl | h
      · exact .inl (by rw [hb])
      · exact .inr (List.mem_cons_of_mem _ h)
    · split at h
      · exact List.mem_cons.1 h
      · rcases List.mem_cons.1 h with rfl | h
        · exact .inr List.mem_cons_self
        · exact (ih h).imp_right (List.mem_cons_of_mem _)

lemma isValid_of_buildBrandTags {tags built : BrandTags} {rest : List (Text × Text)}
    (h : Draft.buildBrandTags tags rest = .ok built) (ht : ∀ p ∈ tags, Tag.isValid p.2 = true) :
    ∀ p ∈ built, Tag.isValid p.2 = true := by
  induction rest generalizing tags with
  | nil =>
    cases h
    exact ht
  | cons q rest ih =>
    obtain ⟨brand, tag⟩ := q
    rw [Draft.buildBrandTags_cons] at h
    split at h
    · cases h
    · obtain ⟨_, hcheck, h⟩ := bind_eq_ok_iff.1 h
      refine ih h fun p hp => ?_
      rcases mem_of_mem_insert hp with rfl | hp
      · exact Tag.check_eq_ok_iff.1 hcheck
      · exact ht p hp

/-- Whatever a draft has gone through, a configuration built from it is checked. -/
theorem isChecked_of_build {amazonTag : Text} {steps : List Step} {config : Config}
    (h : build amazonTag steps = .ok config) : config.IsChecked := by
  have hbuilds := Draft.builds_of_build h
  exact ⟨Tag.check_eq_ok_iff.1 hbuilds.checkedTag,
    isValid_of_buildBrandTags hbuilds.brandTags (fun p hp => absurd hp List.not_mem_nil),
    Draft.checkSkimlinksId_eq_ok_iff.1 hbuilds.checkedId⟩

lemma read_eq_ok_iff {raw d : Text} : Domain.read raw = .ok d ↔
    d = Domain.normalize raw ∧ Domain.isValid (Domain.normalize raw) = true := by
  simp only [Domain.read]
  split
  · next h => simp [h, eq_comm]
  · next h => simp [h]

lemma mapM_read_eq_ok_iff {ds ds' : List Text} : ds.mapM Domain.read = .ok ds' ↔
    ds' = ds.map Domain.normalize ∧ ∀ d ∈ ds, Domain.isValid (Domain.normalize d) = true := by
  induction ds generalizing ds' with
  | nil =>
    constructor
    · intro h
      cases h
      exact ⟨rfl, by simp⟩
    · rintro ⟨rfl, _⟩
      rfl
  | cons d ds ih =>
    rw [List.mapM_cons, List.forall_mem_cons]
    constructor
    · intro h
      obtain ⟨x, hx, h⟩ := bind_eq_ok_iff.1 h
      obtain ⟨xs, hxs, h⟩ := bind_eq_ok_iff.1 h
      cases h
      obtain ⟨rfl, hvalid⟩ := read_eq_ok_iff.1 hx
      obtain ⟨rfl, hall⟩ := ih.1 hxs
      exact ⟨rfl, hvalid, hall⟩
    · rintro ⟨rfl, hvalid, hall⟩
      rw [read_eq_ok_iff.2 ⟨rfl, hvalid⟩, ih.2 ⟨rfl, hall⟩]
      rfl

/-- The domains of a list are normalized and put in order, if all of them are valid then. -/
lemma buildDomains_eq_ok_iff {ds built : List Text} : Draft.buildDomains ds = .ok built ↔
    built = Text.sorted (ds.map Domain.normalize) ∧
      ∀ d ∈ ds, Domain.isValid (Domain.normalize d) = true := by
  constructor
  · intro h
    obtain ⟨ds', hread, h⟩ := bind_eq_ok_iff.1 h
    obtain ⟨rfl, hvalid⟩ := mapM_read_eq_ok_iff.1 hread
    cases h
    exact ⟨rfl, hvalid⟩
  · rintro ⟨rfl, hvalid⟩
    rw [Draft.buildDomains, mapM_read_eq_ok_iff.2 ⟨rfl, hvalid⟩]
    rfl

lemma mem_buildDomains {ds built : List Text} (h : Draft.buildDomains ds = .ok built) {x : Text} :
    x ∈ built ↔ x ∈ ds.map Domain.normalize := by
  rw [(buildDomains_eq_ok_iff.1 h).1, Text.mem_sorted]

/-- Domains that are in the form in which they are compared are taken as they are. -/
lemma buildDomains_of_normal (ds : List Text)
    (h : ∀ d ∈ ds, Domain.normalize d = d ∧ Domain.isValid d = true) :
    Draft.buildDomains ds = .ok (Text.sorted ds) := by
  have hmap : ds.map Domain.normalize = ds := by
    refine Eq.trans (List.map_congr_left fun d hd => (h d hd).1) (List.map_id ds)
  refine buildDomains_eq_ok_iff.2 ⟨by rw [hmap], fun d hd => ?_⟩
  rw [(h d hd).1]
  exact (h d hd).2

/-- The configuration with a tag and nothing else of its own. -/
def ofTag (tag : Text) : Config :=
  { amazonTag := tag, skimlinksId := none, skipDomains := Text.sorted Domain.skipDefaults
    amazonDomains := Text.sorted Domain.amazonDefaults
    shortDomains := Text.sorted Domain.shortDefaults, brandTags := [] }

/-- A draft with the domains that it began with and without brands needs a valid tag, and a valid
publisher if it has one. -/
lemma build_of_defaults {tag : Text} {o : Option Text} (h : Tag.isValid (Text.trim tag) = true)
    (ho : Draft.checkSkimlinksId o = .ok ()) :
    Draft.build { amazonTag := tag, skimlinksId := o } =
      .ok { ofTag (Text.trim tag) with skimlinksId := o } := by
  have hne : (Text.trim tag).isEmpty = false := by
    rw [Tag.isValid, Bool.and_eq_true] at h
    simpa using h.1
  have hskip := buildDomains_of_normal Domain.skipDefaults (by decide +kernel)
  have hamazon := buildDomains_of_normal Domain.amazonDefaults (by decide +kernel)
  have hshort := buildDomains_of_normal Domain.shortDefaults (by decide +kernel)
  rw [Draft.build_eq, hne, Tag.check_eq_ok_iff.2 h, ho, hskip, hamazon, hshort]
  rfl

/-- A valid tag is all that a configuration needs. -/
theorem build_nil (tag : Text) (h : Tag.isValid (Text.trim tag) = true) :
    build tag [] = .ok (ofTag (Text.trim tag)) :=
  build_of_defaults h rfl

/-- A publisher of letters and digits can be added. -/
lemma build_skimlinksId (tag id : Text) (h : Tag.isValid (Text.trim tag) = true)
    (hne : Text.trim id ≠ []) (hid : (Text.trim id).all Char.isAlphanum = true) :
    build tag [.skimlinksId id] =
      .ok { ofTag (Text.trim tag) with skimlinksId := some (Text.trim id) } := by
  have hdraft : Draft.applyAll { amazonTag := tag } [.skimlinksId id] =
      { amazonTag := tag, skimlinksId := some (Text.trim id) } := by
    rw [Draft.applyAll, List.foldl_cons, List.foldl_nil, Draft.apply,
      List.isEmpty_eq_false_iff.2 hne]
    rfl
  have hcheck : Draft.checkSkimlinksId (some (Text.trim id)) = .ok () := by
    rw [Draft.checkSkimlinksId_eq_ok_iff]
    rintro _ ⟨⟩
    exact hid
  rw [build, hdraft, build_of_defaults h hcheck]

lemma mem_of_lookup {b t : Text} {tags : BrandTags} (h : tags.lookup b = some t) :
    ∃ p ∈ tags, p.2 = t := by
  induction tags with
  | nil => cases h
  | cons q tags ih =>
    obtain ⟨b', t'⟩ := q
    rw [List.lookup_cons] at h
    split at h
    · exact ⟨_, List.mem_cons_self, Option.some.inj h⟩
    · obtain ⟨p, hp, ht⟩ := ih h
      exact ⟨p, List.mem_cons_of_mem _ hp, ht⟩

/-- The tag of every brand passed its check. -/
theorem IsChecked.tagFor {c : Config} (h : c.IsChecked) (brand : Option Text) :
    Tag.isValid (c.tagFor brand) = true := by
  rw [Config.tagFor]
  cases hlookup : brand.bind fun b => c.brandTags.lookup b with
  | none => exact h.amazonTag
  | some t =>
    obtain ⟨b, _, hb⟩ := Option.bind_eq_some_iff.1 hlookup
    obtain ⟨p, hp, rfl⟩ := mem_of_lookup hb
    exact h.brandTags p hp

end Config

end AffiliateLinks
