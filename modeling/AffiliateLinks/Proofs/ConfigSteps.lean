import AffiliateLinks.Proofs.BuiltConfig
import Mathlib.Data.List.Induction
import Mathlib.Logic.Unique

/-!
# Which configurations are built

A configuration is built if every text that was given for it, and that no later step has taken back,
is valid once it is trimmed. The last step wins: of the publishers that are given only the last one
counts, and a brand has the tag that was given last for it.
-/

namespace AffiliateLinks

/-- A tag is made of ASCII letters, digits, `-` and `_`. -/
def Tag.IsWellFormed (t : Text) : Prop := t ≠ [] ∧ ∀ c ∈ t, c.isAlphanum = true ∨ c = '-' ∨ c = '_'

lemma Tag.isValid_iff {t : Text} : Tag.isValid t = true ↔ Tag.IsWellFormed t := by
  simp [isValid, IsWellFormed, or_assoc]

/-- A domain is made of ASCII letters, digits, `-` and `.`, without a dot at either end. -/
def Domain.IsWellFormed (d : Text) : Prop :=
  d ≠ [] ∧ d.head? ≠ some '.' ∧ d.getLast? ≠ some '.' ∧
    ∀ c ∈ d, c.isAlphanum = true ∨ c = '-' ∨ c = '.'

lemma Domain.isValid_iff {d : Text} : Domain.isValid d = true ↔ Domain.IsWellFormed d := by
  simp [isValid, IsWellFormed, or_assoc, and_assoc]

namespace Config

namespace Step

/-- The publisher that a step gives, as it is given. -/
def publisher? : Step → Option Text
  | skimlinksId id => some id
  | _ => none

def amazonDomain? : Step → Option Text
  | amazonDomain d => some d
  | _ => none

def shortDomain? : Step → Option Text
  | shortDomain d => some d
  | _ => none

def brandTag? : Step → Option (Text × Text)
  | brandTag brand tag => some (brand, tag)
  | _ => none

variable {s : Step} {d brand tag : Text}

lemma amazonDomain?_eq_some_iff : s.amazonDomain? = some d ↔ s = amazonDomain d := by
  cases s <;> simp [amazonDomain?]

lemma shortDomain?_eq_some_iff : s.shortDomain? = some d ↔ s = shortDomain d := by
  cases s <;> simp [shortDomain?]

lemma brandTag?_eq_some_iff : s.brandTag? = some (brand, tag) ↔ s = brandTag brand tag := by
  cases s <;> simp [brandTag?]

end Step

/-- The domain is on the skip list after the steps: it was there or was added, and the list has not been
cleared since. -/
def StillSkipped (steps : List Step) (d : Text) : Prop :=
  (d ∈ Domain.skipDefaults ∧ .clearSkipDomains ∉ steps) ∨
    ∃ ds later, .skipDomains ds :: later <:+ steps ∧ d ∈ ds ∧ .clearSkipDomains ∉ later

/-- The brands and tags that steps give, both trimmed, in the order of the steps. -/
def givenTags (steps : List Step) : List (Text × Text) :=
  (steps.filterMap Step.brandTag?).map fun p => (Text.trim p.1, Text.trim p.2)

/-- Everything that was given can be used. -/
structure IsBuildable (amazonTag : Text) (steps : List Step) : Prop where
  amazonTag : Tag.IsWellFormed (Text.trim amazonTag)
  publisher : ∀ id, (steps.filterMap Step.publisher?).getLast? = some id →
    Text.trim id = [] ∨ ∀ c ∈ Text.trim id, c.isAlphanum = true
  brandTags : ∀ brand tag, .brandTag brand tag ∈ steps →
    Text.trim brand ≠ [] ∧ Tag.IsWellFormed (Text.trim tag)
  skipDomains : ∀ d, StillSkipped steps d → Domain.IsWellFormed (Domain.normalize d)
  amazonDomains : ∀ d, d ∈ Domain.amazonDefaults ∨ .amazonDomain d ∈ steps →
    Domain.IsWellFormed (Domain.normalize d)
  shortDomains : ∀ d, d ∈ Domain.shortDefaults ∨ .shortDomain d ∈ steps →
    Domain.IsWellFormed (Domain.normalize d)

namespace Draft

variable {d : Draft} {steps : List Step}

/-- A list to which every step adds has what all of them have added. -/
lemma applyAll_append {α : Type} (field : Draft → List α) (given? : Step → Option α)
    (h : ∀ d s, field (d.apply s) = field d ++ (given? s).toList) (d : Draft) (steps : List Step) :
    field (d.applyAll steps) = field d ++ steps.filterMap given? := by
  induction steps generalizing d with
  | nil => exact (List.append_nil _).symm
  | cons s steps ih =>
    change field ((d.apply s).applyAll steps) = _
    rw [ih, h, List.append_assoc]
    cases hs : given? s with
    | none => rw [List.filterMap_cons_none hs, Option.toList_none, List.nil_append]
    | some a => rw [List.filterMap_cons_some hs, Option.toList_some, List.singleton_append]

lemma brandTags_applyAll (d : Draft) (steps : List Step) :
    (d.applyAll steps).brandTags = d.brandTags ++ steps.filterMap Step.brandTag? := by
  refine applyAll_append brandTags _ (fun d s => ?_) d steps
  cases s <;> simp [apply, Step.brandTag?]

lemma amazonDomains_applyAll (d : Draft) (steps : List Step) :
    (d.applyAll steps).amazonDomains = d.amazonDomains ++ steps.filterMap Step.amazonDomain? := by
  refine applyAll_append amazonDomains _ (fun d s => ?_) d steps
  cases s <;> simp [apply, Step.amazonDomain?]

lemma shortDomains_applyAll (d : Draft) (steps : List Step) :
    (d.applyAll steps).shortDomains = d.shortDomains ++ steps.filterMap Step.shortDomain? := by
  refine applyAll_append shortDomains _ (fun d s => ?_) d steps
  cases s <;> simp [apply, Step.shortDomain?]

lemma amazonTag_applyAll (d : Draft) (steps : List Step) :
    (d.applyAll steps).amazonTag = d.amazonTag := by
  induction steps generalizing d with
  | nil => rfl
  | cons s steps ih =>
    refine (ih (d.apply s)).trans ?_
    cases s <;> rfl

/-- Only the last publisher that is given counts, and none if it is blank. -/
lemma skimlinksId_applyAll (d : Draft) (steps : List Step) : (d.applyAll steps).skimlinksId =
    match (steps.filterMap Step.publisher?).getLast? with
    | some id => if (Text.trim id).isEmpty then none else some (Text.trim id)
    | none => d.skimlinksId := by
  -- From the end, as an earlier publisher counts only if no later one is given.
  induction steps using List.reverseRecOn with
  | nil => rfl
  | append_singleton steps s ih =>
    have hlast : d.applyAll (steps ++ [s]) = (d.applyAll steps).apply s := List.foldl_append
    rw [hlast, List.filterMap_append]
    cases s with
    | skimlinksId id => simp [apply, Step.publisher?]
    | _ => simpa [apply, Step.publisher?] using ih

/-- A domain is skipped if it was named after the list was cleared for the last time, or has always been
on it. -/
lemma mem_skipDomains_applyAll {x : Text} : x ∈ (d.applyAll steps).skipDomains ↔
    (x ∈ d.skipDomains ∧ .clearSkipDomains ∉ steps) ∨
      ∃ ds later, .skipDomains ds :: later <:+ steps ∧ x ∈ ds ∧ .clearSkipDomains ∉ later := by
  induction steps generalizing d with
  | nil => simp [applyAll]
  | cons s steps ih =>
    change x ∈ ((d.apply s).applyAll steps).skipDomains ↔ _
    rw [ih]
    simp only [List.suffix_cons_iff, or_and_right, exists_or, List.cons.injEq, List.mem_cons, not_or]
    cases s with
    | clearSkipDomains => simp [apply]
    | skipDomains ds => simp [apply, or_and_right, or_assoc]
    | _ => simp [apply]

end Draft

/-- A draft is built if all of its parts pass their checks. -/
lemma exists_build_iff {d : Draft} : (∃ c, d.build = .ok c) ↔
    Tag.IsWellFormed (Text.trim d.amazonTag) ∧
      (∀ id ∈ d.skimlinksId, ∀ c ∈ id, c.isAlphanum = true) ∧
      (∃ tags, Draft.buildBrandTags [] d.brandTags = .ok tags) ∧
      (∀ x ∈ d.skipDomains, Domain.IsWellFormed (Domain.normalize x)) ∧
      (∀ x ∈ d.amazonDomains, Domain.IsWellFormed (Domain.normalize x)) ∧
      ∀ x ∈ d.shortDomains, Domain.IsWellFormed (Domain.normalize x) := by
  have hid : (∀ id ∈ d.skimlinksId, ∀ c ∈ id, c.isAlphanum = true) ↔
      Draft.checkSkimlinksId d.skimlinksId = .ok () := by
    simp only [Draft.checkSkimlinksId_eq_ok_iff, List.all_eq_true]
  have hdomains (ds : List Text) : (∀ x ∈ ds, Domain.IsWellFormed (Domain.normalize x)) ↔
      ∃ built, Draft.buildDomains ds = .ok built := by
    simp only [buildDomains_eq_ok_iff, exists_eq_left, Domain.isValid_iff]
  rw [hid, hdomains, hdomains, hdomains, ← Tag.isValid_iff, ← Tag.check_eq_ok_iff]
  constructor
  · rintro ⟨c, h⟩
    have hbuilds := Draft.builds_of_build h
    have htag := hbuilds.checkedTag
    have hpublisher := hbuilds.checkedId
    rw [hbuilds.amazonTag] at htag
    rw [hbuilds.skimlinksId] at hpublisher
    exact ⟨htag, hpublisher, ⟨_, hbuilds.brandTags⟩, ⟨_, hbuilds.skipDomains⟩,
      ⟨_, hbuilds.amazonDomains⟩, ⟨_, hbuilds.shortDomains⟩⟩
  · rintro ⟨htag, hpublisher, ⟨tags, hbrands⟩, ⟨skip, hskip⟩, ⟨amazon, hamazon⟩, ⟨short, hshort⟩⟩
    have hne : (Text.trim d.amazonTag).isEmpty = false := by
      rw [List.isEmpty_eq_false_iff]
      exact (Tag.isValid_iff.1 (Tag.check_eq_ok_iff.1 htag)).1
    rw [Draft.build_eq, hne, htag, hpublisher, hbrands, hskip, hamazon, hshort]
    exact ⟨_, rfl⟩

section BrandTags

variable {tags built : BrandTags} {pairs : List (Text × Text)}

lemma lookup_cons (b brand tag : Text) (tags : BrandTags) :
    ((brand, tag) :: tags).lookup b = if b = brand then some tag else tags.lookup b := by
  rw [List.lookup_cons]
  by_cases h : b = brand
  · simp [h]
  · simp [h, beq_eq_false_iff_ne.2 h]

lemma lookup_insert (b brand tag : Text) (tags : BrandTags) :
    (tags.insert brand tag).lookup b = if b = brand then some tag else tags.lookup b := by
  induction tags with
  | nil => exact lookup_cons b brand tag []
  | cons p tags ih =>
    obtain ⟨b', t'⟩ := p
    rw [BrandTags.insert]
    split_ifs <;> simp_all [lookup_cons]

/-- Of several tags for one brand the last one stays. -/
lemma lookup_foldl_insert (b : Text) (pairs : List (Text × Text)) (tags : BrandTags) :
    (pairs.foldl (fun tags p => tags.insert p.1 p.2) tags).lookup b =
      (pairs.reverse.lookup b).or (tags.lookup b) := by
  induction pairs generalizing tags with
  | nil => rfl
  | cons p pairs ih =>
    rw [List.foldl_cons, ih, lookup_insert, List.reverse_cons, List.lookup_append, Option.or_assoc,
      lookup_cons b p.1 p.2 []]
    split_ifs <;> rfl

/-- Brands are built into a table if none of them is blank and all tags are valid. -/
lemma buildBrandTags_eq_ok_iff : Draft.buildBrandTags tags pairs = .ok built ↔
    (∀ p ∈ pairs, Text.trim p.1 ≠ [] ∧ Tag.IsWellFormed (Text.trim p.2)) ∧
      built = (pairs.map fun p => (Text.trim p.1, Text.trim p.2)).foldl
        (fun tags p => tags.insert p.1 p.2) tags := by
  induction pairs generalizing tags with
  | nil =>
    constructor
    · intro h
      cases h
      exact ⟨nofun, rfl⟩
    · rintro ⟨-, rfl⟩
      rfl
  | cons p pairs ih =>
    obtain ⟨brand, tag⟩ := p
    rw [Draft.buildBrandTags_cons, List.forall_mem_cons, List.map_cons, List.foldl_cons]
    split_ifs with hbrand
    · simp [List.isEmpty_iff.1 hbrand]
    · rw [bind_eq_ok_iff, Unique.exists_iff, ih, ← Tag.isValid_iff, ← Tag.check_eq_ok_iff, and_assoc,
        and_iff_right (List.isEmpty_iff.not.1 hbrand)]

end BrandTags

/-- In a configuration that was built, a brand has the tag that was given last for it. -/
lemma tagFor_of_build {amazonTag : Text} {steps : List Step} {config : Config}
    (h : build amazonTag steps = .ok config) (brand : Option Text) : config.tagFor brand =
      (brand.bind fun b => (givenTags steps).reverse.lookup b).getD (Text.trim amazonTag) := by
  have hbuilds := Draft.builds_of_build h
  have htags := (buildBrandTags_eq_ok_iff.1 hbuilds.brandTags).2
  rw [Draft.brandTags_applyAll, List.nil_append] at htags
  rw [tagFor, hbuilds.amazonTag, Draft.amazonTag_applyAll, htags]
  simp only [lookup_foldl_insert, List.lookup_nil, Option.or_none]
  rfl

/-- The publisher is valid if the last one that was given is blank or made of letters and digits. -/
lemma checked_publisher_iff {steps : List Step} {amazonTag : Text} :
    (∀ id ∈ (Draft.applyAll { amazonTag } steps).skimlinksId, ∀ c ∈ id, c.isAlphanum = true) ↔
      ∀ id, (steps.filterMap Step.publisher?).getLast? = some id →
        Text.trim id = [] ∨ ∀ c ∈ Text.trim id, c.isAlphanum = true := by
  rw [Draft.skimlinksId_applyAll]
  cases (steps.filterMap Step.publisher?).getLast? with
  | none => simp
  | some id => by_cases hblank : Text.trim id = [] <;> simp [hblank]

lemma built_brands_iff {steps : List Step} :
    (∃ tags, Draft.buildBrandTags [] (steps.filterMap Step.brandTag?) = .ok tags) ↔
      ∀ brand tag, .brandTag brand tag ∈ steps →
        Text.trim brand ≠ [] ∧ Tag.IsWellFormed (Text.trim tag) := by
  simp only [buildBrandTags_eq_ok_iff, exists_and_left, exists_eq, and_true, Prod.forall,
    List.mem_filterMap, Step.brandTag?_eq_some_iff, exists_eq_right]

/-- Steps build a configuration if everything that they give, and do not take back, is valid. In every
configuration that is built each brand has a valid tag: the last one that was given for it, and the
default tag if there is none. -/
theorem exists_build_iff_isBuildable (amazonTag : Text) (steps : List Step) :
    ((∃ config, build amazonTag steps = .ok config) ↔ IsBuildable amazonTag steps) ∧
      ∀ config, build amazonTag steps = .ok config → ∀ brand,
        Tag.IsWellFormed (config.tagFor brand) ∧ config.tagFor brand =
          (brand.bind fun b => (givenTags steps).reverse.lookup b).getD (Text.trim amazonTag) := by
  refine ⟨?_, fun config h brand => ⟨?_, tagFor_of_build h brand⟩⟩
  · rw [build, exists_build_iff, checked_publisher_iff, Draft.amazonTag_applyAll,
      Draft.brandTags_applyAll, Draft.amazonDomains_applyAll, Draft.shortDomains_applyAll,
      List.nil_append, built_brands_iff]
    simp only [Draft.mem_skipDomains_applyAll, List.mem_append, List.mem_filterMap,
      Step.amazonDomain?_eq_some_iff, Step.shortDomain?_eq_some_iff, exists_eq_right]
    constructor
    · rintro ⟨htag, hpublisher, hbrands, hskip, hamazon, hshort⟩
      exact ⟨htag, hpublisher, hbrands, hskip, hamazon, hshort⟩
    · intro h
      exact ⟨h.amazonTag, h.publisher, h.brandTags, h.skipDomains, h.amazonDomains, h.shortDomains⟩
  · exact Tag.isValid_iff.1 ((isChecked_of_build h).tagFor brand)

/-- What is invalid is taken back: a publisher by the next one, and a domain when the list is cleared. Of
two tags for a brand the second stays. -/
theorem build_last_step_wins :
    let steps : List Step := [.skimlinksId "no publisher!".toList, .skipDomains ["bad/domain".toList],
      .brandTag " books ".toList "books-20".toList, .clearSkipDomains,
      .skipDomains [" WWW.Example.org".toList], .brandTag "books".toList "books-21\n".toList,
      .skimlinksId " 12X ".toList]
    ∃ config, build " site-20".toList steps = .ok config ∧ IsBuildable " site-20".toList steps ∧
      config.tagFor (some "books".toList) = "books-21".toList ∧
      config.tagFor (some " books ".toList) = "site-20".toList := by
  intro steps
  let config := { ofTag "site-20".toList with
    skimlinksId := some "12X".toList
    skipDomains := ["example.org".toList]
    brandTags := [("books".toList, "books-21".toList)] }
  have hbuild : build " site-20".toList steps = .ok config := by rfl
  obtain ⟨hbuildable, htags⟩ := exists_build_iff_isBuildable " site-20".toList steps
  refine ⟨config, hbuild, hbuildable.1 ⟨config, hbuild⟩, ?_, ?_⟩
  · rw [(htags config hbuild _).2]
    rfl
  · rw [(htags config hbuild _).2]
    rfl

end Config

end AffiliateLinks
