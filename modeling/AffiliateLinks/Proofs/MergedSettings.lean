import AffiliateLinks.Config.Settings
import AffiliateLinks.Proofs.ConfigSteps
import Mathlib.Data.Char
import Mathlib.Data.List.Lex

/-!
# Settings beside the environment

A settings file and the environment are merged into one configuration. The tag and the publisher of
the file stand in for those of the environment, whatever they are, and without a file nothing but the
environment counts. The domains of both are added to the built-in ones, of which the file may drop the
list of those to skip.
-/

namespace AffiliateLinks

namespace Text

variable {s t : Text} {ts us : List Text}

/-- The order of texts is the lexicographic order of their characters. -/
lemma before_iff_lt : before s t = true ↔ s < t := by
  induction s generalizing t with
  | nil => cases t <;> simp [before]
  | cons a s ih =>
    cases t with
    | nil => simp [before]
    | cons b t =>
      have hlt : a < b ↔ a.toNat < b.toNat := Iff.rfl
      rw [before, List.cons_lt_cons_iff, hlt]
      split_ifs with h
      · simp [h, ih]
      · simp [h]

/-- Each text of the list comes before all that follow it, so none of them is there twice. -/
def Ascending (ts : List Text) : Prop := ts.Pairwise fun s t => before s t = true

lemma Ascending.insert (h : Ascending ts) (t : Text) : Ascending (insert t ts) := by
  induction ts with
  | nil => exact List.pairwise_singleton _ _
  | cons u ts ih =>
    obtain ⟨hu, hts⟩ := List.pairwise_cons.1 h
    rw [Text.insert]
    split_ifs with heq hbefore
    · exact h
    · refine List.pairwise_cons.2 ⟨fun v hv => ?_, h⟩
      rcases List.mem_cons.1 hv with rfl | hv
      · exact hbefore
      · rw [before_iff_lt] at hbefore ⊢
        exact hbefore.trans (before_iff_lt.1 (hu v hv))
    · refine List.pairwise_cons.2 ⟨fun v hv => ?_, ih hts⟩
      rcases mem_insert.1 hv with rfl | hv
      · rw [before_iff_lt] at hbefore ⊢
        exact lt_of_le_of_ne (not_lt.1 hbefore) (Ne.symm heq)
      · exact hu v hv

lemma ascending_sorted (ts : List Text) : Ascending (sorted ts) := by
  have hfold (us : List Text) (h : Ascending us) :
      Ascending (ts.foldl (fun us t => insert t us) us) := by
    induction ts generalizing us with
    | nil => exact h
    | cons t ts ih => exact ih _ (h.insert t)
  exact hfold [] List.Pairwise.nil

end Text

namespace Environment

/-- The environment with another value of a variable, if there is one. -/
def replace (env : Environment) (name : Text) : Option Text → Environment
  | some value => Function.update env name (some value)
  | none => env

variable (env : Environment) {name other : Text}

lemma replace_self (name : Text) (value : Option Text) :
    env.replace name value name = (value <|> env name) := by
  cases value with
  | none => rfl
  | some value => exact Function.update_self name (some value) env

lemma replace_of_ne (h : other ≠ name) (value : Option Text) :
    env.replace name value other = env other := by
  cases value with
  | none => rfl
  | some value => exact Function.update_of_ne h (some value) env

lemma mem_items {list d : Text} :
    d ∈ items list ↔ ∃ item ∈ Text.split ',' list, Text.trim item = d ∧ d ≠ [] := by
  simp only [items, List.mem_filter, List.mem_map, Bool.not_eq_true', List.isEmpty_eq_false_iff,
    ← exists_and_right, and_assoc, ne_eq]

/-- The environment names the domain: as an item, trimmed and not blank, of its list of domains to skip. -/
def Skips (d : Text) : Prop :=
  ∃ list, env skipDomains = some list ∧ ∃ item ∈ Text.split ',' list, Text.trim item = d ∧ d ≠ []

end Environment

namespace Config

variable {steps : List Step} {amazonTag x : Text}

namespace Draft

/-- Where the list is not cleared, it keeps what it had and every step adds to it. -/
lemma mem_skipDomains_of_not_cleared (h : .clearSkipDomains ∉ steps) {d : Draft} :
    x ∈ (d.applyAll steps).skipDomains ↔
      x ∈ d.skipDomains ∨ ∃ ds, .skipDomains ds ∈ steps ∧ x ∈ ds := by
  rw [mem_skipDomains_applyAll, and_iff_left h]
  refine or_congr_right (exists_congr fun ds => ⟨?_, ?_⟩)
  · rintro ⟨later, hsuffix, hx, -⟩
    exact ⟨hsuffix.subset List.mem_cons_self, hx⟩
  · rintro ⟨hmem, hx⟩
    obtain ⟨front, later, rfl⟩ := List.append_of_mem hmem
    have hlater : .clearSkipDomains ∉ later := fun hclear =>
      h (List.mem_append_right _ (List.mem_cons_of_mem _ hclear))
    exact ⟨later, List.suffix_append _ _, hx, hlater⟩

lemma mem_amazonDomains : x ∈ (applyAll { amazonTag } steps).amazonDomains ↔
    x ∈ Domain.amazonDefaults ∨ .amazonDomain x ∈ steps := by
  simp only [amazonDomains_applyAll, List.mem_append, List.mem_filterMap,
    Step.amazonDomain?_eq_some_iff, exists_eq_right]

lemma mem_shortDomains : x ∈ (applyAll { amazonTag } steps).shortDomains ↔
    x ∈ Domain.shortDefaults ∨ .shortDomain x ∈ steps := by
  simp only [shortDomains_applyAll, List.mem_append, List.mem_filterMap,
    Step.shortDomain?_eq_some_iff, exists_eq_right]

end Draft

lemma mem_map_normalize {ds : List Text} (h : ∀ d ∈ ds, Domain.normalize d = d) :
    x ∈ ds.map Domain.normalize ↔ x ∈ ds := by
  rw [List.map_congr_left h, List.map_id']

/-- The built-in Amazon domains, long and short, are in the form in which domains are compared. -/
lemma normalize_defaults :
    ∀ d ∈ Domain.amazonDefaults ++ Domain.shortDefaults, Domain.normalize d = d := by decide +kernel

lemma ascending_buildDomains {ds built : List Text} (h : Draft.buildDomains ds = .ok built) :
    Text.Ascending built := by
  rw [(buildDomains_eq_ok_iff.1 h).1]
  exact Text.ascending_sorted _

end Config

namespace Settings

variable (s : Settings) (env : Environment) {c : Config} {x amazonTag : Text}

/-- The steps are the same when the tag and the publisher of the file stand in the environment. -/
lemma steps_replace : { s with amazonTag := none, skimlinksId := none }.steps
    ((env.replace Environment.amazonTag s.amazonTag).replace Environment.skimlinksId s.skimlinksId) =
      s.steps env := by
  have hpublisher : Environment.skimlinksId ≠ Environment.amazonTag := by decide
  have htag : Environment.skipDomains ≠ Environment.amazonTag := by decide
  have hskip : Environment.skipDomains ≠ Environment.skimlinksId := by decide
  simp only [steps, Environment.replace_self, Environment.replace_of_ne _ hskip,
    Environment.replace_of_ne _ htag, Environment.replace_of_ne _ hpublisher]
  rfl

lemma config_replace : config (some s) env =
    config (some { s with amazonTag := none, skimlinksId := none })
      ((env.replace Environment.amazonTag s.amazonTag).replace
        Environment.skimlinksId s.skimlinksId) := by
  have htag : Environment.amazonTag ≠ Environment.skimlinksId := by decide
  simp only [config, Option.getD_some, steps_replace, Environment.replace_of_ne _ htag,
    Environment.replace_self]
  rfl

/-- Without a file the steps are those of the environment and one that adds nothing. -/
lemma steps_default : steps {} env = Config.environmentSteps env ++ [.skipDomains []] := by
  simp [steps, Config.environmentSteps]

lemma build_concat_skipDomains_nil (amazonTag : Text) (steps : List Config.Step) :
    Config.build amazonTag (steps ++ [.skipDomains []]) = Config.build amazonTag steps := by
  rw [Config.build, Config.Draft.applyAll, List.foldl_append, List.foldl_cons, List.foldl_nil,
    Config.Draft.apply, List.append_nil]
  rfl

lemma config_none : config none env = Config.ofEnvironment env := by
  have htag : (({} : Settings).amazonTag <|> env Environment.amazonTag) =
      env Environment.amazonTag := rfl
  rw [config, Option.getD_none, steps_default, htag, Config.ofEnvironment]
  cases env Environment.amazonTag with
  | none => rfl
  | some tag => exact build_concat_skipDomains_nil tag _

/-- The domains of the environment and of the file are skipped, and the built-in ones unless the file drops
them. -/
lemma mem_skipDomains_steps : x ∈ (Config.Draft.applyAll { amazonTag } (s.steps env)).skipDomains ↔
    env.Skips x ∨ x ∈ s.skipDomains ∨
      s.replaceDefaultSkipDomains = false ∧ x ∈ Domain.skipDefaults := by
  -- The list is cleared at most at the end of `front`, and all that comes later adds to it.
  let front : List Config.Step :=
    ((s.skimlinksId <|> env Environment.skimlinksId).map Config.Step.skimlinksId).toList ++
      if s.replaceDefaultSkipDomains then [.clearSkipDomains] else []
  let later : List Config.Step :=
    ((env Environment.skipDomains).map fun t =>
      Config.Step.skipDomains (Environment.items t)).toList ++
    [.skipDomains s.skipDomains] ++ s.amazonDomains.map Config.Step.amazonDomain ++
    s.shortDomains.map Config.Step.shortDomain ++
    s.brandTags.map fun p => Config.Step.brandTag p.1 p.2
  have hsteps : s.steps env = front ++ later := by
    simp only [steps, front, later, List.append_assoc]
  have hfront : (Config.Draft.applyAll { amazonTag } front).skipDomains =
      if s.replaceDefaultSkipDomains then [] else Domain.skipDefaults := by
    dsimp only [front]
    cases s.skimlinksId <|> env Environment.skimlinksId <;>
      cases s.replaceDefaultSkipDomains <;> rfl
  have hlater : .clearSkipDomains ∉ later := by simp [later]
  have hadded : (∃ ds, .skipDomains ds ∈ later ∧ x ∈ ds) ↔ env.Skips x ∨ x ∈ s.skipDomains := by
    simp [later, Environment.Skips, ← Environment.mem_items, or_and_right, exists_or]
  rw [hsteps, Config.Draft.applyAll, List.foldl_append]
  refine (Config.Draft.mem_skipDomains_of_not_cleared hlater).trans ?_
  rw [hadded]
  change x ∈ (Config.Draft.applyAll { amazonTag } front).skipDomains ∨ _ ↔ _
  rw [hfront, or_comm, or_assoc]
  cases s.replaceDefaultSkipDomains <;> simp

/-- The lists of a configuration are those of the built-in domains, of the environment and of the file,
normalized, each domain once and in ascending order. -/
structure MergesDomains (s : Settings) (env : Environment) (c : Config) : Prop where
  skipDomains : ∀ x, x ∈ c.skipDomains ↔ ∃ d, Domain.normalize d = x ∧
    (env.Skips d ∨ d ∈ s.skipDomains ∨
      s.replaceDefaultSkipDomains = false ∧ d ∈ Domain.skipDefaults)
  amazonDomains : ∀ x, x ∈ c.amazonDomains ↔
    x ∈ Domain.amazonDefaults ∨ ∃ d ∈ s.amazonDomains, Domain.normalize d = x
  shortDomains : ∀ x, x ∈ c.shortDomains ↔
    x ∈ Domain.shortDefaults ∨ ∃ d ∈ s.shortDomains, Domain.normalize d = x
  ascending : Text.Ascending c.skipDomains ∧ Text.Ascending c.amazonDomains ∧
    Text.Ascending c.shortDomains

lemma exists_build_of_config {file : Option Settings} (h : config file env = .ok c) :
    ∃ amazonTag, Config.build amazonTag ((file.getD {}).steps env) = .ok c := by
  rw [config] at h
  split at h
  · exact ⟨_, h⟩
  · cases h

lemma mergesDomains_of_build (h : Config.build amazonTag (s.steps env) = .ok c) :
    s.MergesDomains env c := by
  have hbuilds := Config.Draft.builds_of_build h
  have hdefaults := List.forall_mem_append.1 Config.normalize_defaults
  refine ⟨fun x => ?_, fun x => ?_, fun x => ?_, Config.ascending_buildDomains hbuilds.skipDomains,
    Config.ascending_buildDomains hbuilds.amazonDomains,
    Config.ascending_buildDomains hbuilds.shortDomains⟩
  · simp only [Config.mem_buildDomains hbuilds.skipDomains, List.mem_map, mem_skipDomains_steps,
      and_comm]
  · have hsteps (d : Text) : .amazonDomain d ∈ s.steps env ↔ d ∈ s.amazonDomains := by simp [steps]
    rw [← Config.mem_map_normalize hdefaults.1, Config.mem_buildDomains hbuilds.amazonDomains]
    simp only [List.mem_map, Config.Draft.mem_amazonDomains, hsteps, or_and_right, exists_or]
  · have hsteps (d : Text) : .shortDomain d ∈ s.steps env ↔ d ∈ s.shortDomains := by simp [steps]
    rw [← Config.mem_map_normalize hdefaults.2, Config.mem_buildDomains hbuilds.shortDomains]
    simp only [List.mem_map, Config.Draft.mem_shortDomains, hsteps, or_and_right, exists_or]

/-- Without a file the environment alone gives the configuration, or the error. A file gives what the same
file without its tag and publisher gives when these stand in the environment. Whenever there is a
configuration, its lists are the unions of the domains that were named. -/
theorem config_merges (env : Environment) :
    config none env = Config.ofEnvironment env ∧
      (∀ s : Settings, config (some s) env =
        config (some { s with amazonTag := none, skimlinksId := none })
          ((env.replace Environment.amazonTag s.amazonTag).replace
            Environment.skimlinksId s.skimlinksId)) ∧
      ∀ (file : Option Settings) (c : Config), config file env = .ok c →
        (file.getD {}).MergesDomains env c := by
  refine ⟨config_none env, fun s => config_replace s env, fun file c h => ?_⟩
  obtain ⟨amazonTag, hbuild⟩ := exists_build_of_config env h
  exact mergesDomains_of_build _ env hbuild

/-- A blank publisher of the file turns off the one of the environment. The file drops the built-in list of
domains to skip, and the items of the environment stay. -/
theorem config_merges_replacing :
    let env : Environment := fun name =>
      if name = Environment.amazonTag then some "env-20".toList
      else if name = Environment.skimlinksId then some "12X".toList
      else if name = Environment.skipDomains then some " WWW.Example.org, ,b.com,".toList
      else none
    let s : Settings :=
      { skimlinksId := some " ".toList, replaceDefaultSkipDomains := true
        skipDomains := ["a.com".toList, "B.com ".toList], amazonDomains := ["www.amazon.cn".toList] }
    ∃ c, config (some s) env = .ok c ∧
      config (some { s with skimlinksId := none })
        (env.replace Environment.skimlinksId (some " ".toList)) = .ok c ∧
      s.MergesDomains env c ∧ c.amazonTag = "env-20".toList ∧ c.skimlinksId = none ∧
      c.skipDomains = ["a.com".toList, "b.com".toList, "example.org".toList] ∧
      "amazon.cn".toList ∈ c.amazonDomains := by
  intro env s
  let base := Config.ofTag "env-20".toList
  let c := { base with
    skipDomains := ["a.com".toList, "b.com".toList, "example.org".toList]
    amazonDomains := Text.insert "amazon.cn".toList base.amazonDomains }
  have hconfig : config (some s) env = .ok c := by decide +kernel
  obtain ⟨-, hreplace, hdomains⟩ := config_merges env
  have hmerges := hdomains (some s) c hconfig
  refine ⟨c, hconfig, (hreplace s).symm.trans hconfig, hmerges, rfl, rfl, rfl, ?_⟩
  exact (hmerges.amazonDomains _).2 (.inr ⟨"www.amazon.cn".toList, by simp [s], by decide +kernel⟩)

end Settings

end AffiliateLinks
