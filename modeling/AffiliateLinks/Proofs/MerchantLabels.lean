import AffiliateLinks.Proofs.BuiltConfig
import AffiliateLinks.Proofs.TrimmedUrl
import Mathlib.Data.List.Infix

/-!
# Merchants and the labels of their domains

Domains are compared as texts: one lies within another if it ends with it behind a dot. For the labels
of the two this says that those of the one end with those of the other, so `notamazon.com` lies within
no domain of Amazon and `smile.amazon.com` does. What becomes of a link then depends on the labels of
its merchant, and a link without a merchant is skipped.
-/

namespace AffiliateLinks

namespace Domain

variable {d known host : Text}

/-- The labels of a domain, which dots hold apart. -/
def labels (d : Text) : List Text := Text.split '.' d

lemma isWithin_iff_text : isWithin d known = true ↔ d = known ∨ ∃ sub, d = sub ++ '.' :: known := by
  unfold isWithin
  rw [Bool.or_eq_true, beq_iff_eq]
  apply or_congr_right
  cases h : Text.before? known d with
  | none =>
    simp only [Bool.false_eq_true, false_iff]
    rintro ⟨sub, rfl⟩
    have hfront : Text.before? known (sub ++ '.' :: known) = some (sub ++ ['.']) :=
      Text.before?_eq_some_iff.2 (by simp)
    rw [hfront] at h
    cases h
  | some front =>
    rw [Text.before?_eq_some_iff] at h
    simp only [beq_iff_eq, List.getLast?_eq_some_iff, h]
    constructor
    · rintro ⟨sub, rfl⟩
      exact ⟨sub, by simp⟩
    · rintro ⟨sub, hsub⟩
      rw [List.append_cons, List.append_left_inj] at hsub
      exact ⟨sub, hsub⟩

/-- A domain lies within the one whose labels its own labels end with. -/
theorem isWithin_iff : isWithin d known = true ↔ labels known <:+ labels d := by
  rw [isWithin_iff_text, labels, labels]
  constructor
  · rintro (rfl | ⟨sub, rfl⟩)
    · exact List.suffix_rfl
    · rw [Text.split_append]
      exact List.suffix_append _ _
  · rintro ⟨front, h⟩
    -- A text is its labels with dots between them, so labels in front are a text in front.
    have hd := congrArg (Text.join '.') h
    rw [Text.join_split] at hd
    by_cases hne : front = []
    · left
      rw [← hd, hne, List.nil_append, Text.join_split]
    · right
      rw [Text.join_append hne (Text.split_ne_nil _ _), Text.join_split] at hd
      exact ⟨_, hd.symm⟩

lemma withoutWww_eq_iff : withoutWww host = d ↔
    host = "www.".toList ++ d ∨ ¬"www.".toList <+: host ∧ host = d := by
  unfold withoutWww
  cases h : Text.after? "www.".toList host with
  | none =>
    have hnot := Text.after?_eq_none_iff.1 h
    rw [Option.getD_none]
    constructor
    · intro heq
      exact .inr ⟨hnot, heq⟩
    · rintro (rfl | ⟨_, heq⟩)
      · exact absurd (List.prefix_append _ _) hnot
      · exact heq
  | some rest =>
    obtain rfl := Text.after?_eq_some_iff.1 h
    rw [Option.getD_some]
    constructor
    · rintro rfl
      exact .inl rfl
    · rintro (heq | ⟨hnot, _⟩)
      · exact List.append_cancel_left heq
      · exact absurd (List.prefix_append _ _) hnot

end Domain

namespace Url

lemma domain?_eq_some_iff {t d : Text} : domain? t = some d ↔
    d ≠ [] ∧ ∃ u, parse? t = some u ∧ Domain.withoutWww (Text.lower u.hostText) = d := by
  unfold domain?
  cases parse? t with
  | none => simp
  | some u =>
    simp only [Option.bind_eq_bind, Option.bind_some, List.isEmpty_iff, Option.some.injEq,
      exists_eq_left']
    split
    · next hempty => simp [hempty, eq_comm]
    · next hfull =>
      rw [Option.some.injEq, iff_and_self]
      rintro rfl
      exact hfull

end Url

namespace Classification

variable {url d : Text} {config : Config}

/-- The trimmed URL is one of the web, and `d` is its host without a leading `www.` label. -/
structure IsMerchant (url d : Text) : Prop where
  scheme : "http://".toList <+: Text.lower (Text.trim url) ∨
    "https://".toList <+: Text.lower (Text.trim url)
  host : ∃ u, Url.parse? (Text.trim url) = some u ∧
    (Text.lower u.hostText = "www.".toList ++ d ∨
      ¬"www.".toList <+: Text.lower u.hostText ∧ Text.lower u.hostText = d)
  nonempty : d ≠ []

lemma isMerchant_iff :
    IsMerchant url d ↔ isHttp (Text.trim url) = true ∧ Url.domain? (Text.trim url) = some d := by
  rw [isHttp_iff, Url.domain?_eq_some_iff]
  simp only [Domain.withoutWww_eq_iff]
  exact ⟨fun h => ⟨h.scheme, h.nonempty, h.host⟩, fun h => ⟨h.1, h.2.2, h.2.1⟩⟩

instance (url d : Text) : Decidable (IsMerchant url d) := decidable_of_iff _ isMerchant_iff.symm

lemma isAmazonDomain_iff : config.isAmazonDomain d = true ↔
    ∃ known ∈ config.amazonDomains ++ config.shortDomains, Domain.labels known <:+ Domain.labels d := by
  rw [Config.isAmazonDomain, List.any_eq_true]
  simp only [Domain.isWithin_iff]

/-- A link with a merchant is skipped if the merchant is on the skip list, tagged if the labels of the
merchant end with those of a domain of Amazon, and otherwise left to Skimlinks if it is set up. Every
other link is skipped and has no merchant. -/
theorem ofUrl_labels (url : Text) (config : Config) :
    (∀ d, IsMerchant url d → (ofUrl url config).merchant = d ∧ (ofUrl url config).method =
      if d ∈ config.skipDomains then .skipped
      else if ∃ known ∈ config.amazonDomains ++ config.shortDomains,
        Domain.labels known <:+ Domain.labels d then .amazon
      else if config.skimlinksId.isSome then .skimlinks
      else .passthrough) ∧
    ((¬∃ d, IsMerchant url d) → ofUrl url config = ⟨.skipped, []⟩) := by
  simp only [isMerchant_iff]
  constructor
  · rintro d ⟨hhttp, hdomain⟩
    have heq : ofUrl url config = ofMerchant d config := by simp [ofUrl, hhttp, hdomain]
    rw [heq]
    refine ⟨rfl, ?_⟩
    simp only [ofMerchant, isAmazonDomain_iff, Config.isSkippedDomain, List.contains_iff_mem]
  · intro hnone
    unfold ofUrl
    dsimp only
    split
    · next hhttp =>
      cases hdomain : Url.domain? (Text.trim url) with
      | none => rfl
      | some d => exact absurd ⟨d, hhttp, hdomain⟩ hnone
    · rfl

/-- White space, letter case, users, ports and a `www.` label do not hide a merchant. A domain that
only ends like one of Amazon lies outside of it, and `www.` alone is no merchant. -/
theorem ofUrl_labels_shop :
    let config := Config.ofTag "site-20".toList
    let shop := "\u3000HtTpS://me:pw@WWW.Shop.Amazon.CO.UK:444/dp/X ".toList
    let alike := "http://notamazon.com/dp/X".toList
    IsMerchant shop "shop.amazon.co.uk".toList ∧
      ofUrl shop config = ⟨.amazon, "shop.amazon.co.uk".toList⟩ ∧
      ofUrl alike config = ⟨.passthrough, "notamazon.com".toList⟩ ∧
      ofUrl "http://www./".toList config = ⟨.skipped, []⟩ := by
  intro config shop alike
  have hshop : IsMerchant shop "shop.amazon.co.uk".toList := by decide +kernel
  have halike : IsMerchant alike "notamazon.com".toList := by decide +kernel
  have hnone : ¬∃ d, IsMerchant "http://www./".toList d := by
    rintro ⟨d, h⟩
    have hdomain : Url.domain? (Text.trim "http://www./".toList) = none := by decide +kernel
    rw [isMerchant_iff, hdomain] at h
    cases h.2
  obtain ⟨hmerchant, hmethod⟩ := (ofUrl_labels shop config).1 _ hshop
  obtain ⟨hmerchant', hmethod'⟩ := (ofUrl_labels alike config).1 _ halike
  have hamazon : (ofUrl shop config).method = .amazon := hmethod.trans (by decide +kernel)
  have hpassthrough : (ofUrl alike config).method = .passthrough := hmethod'.trans (by decide +kernel)
  refine ⟨hshop, ?_, ?_, (ofUrl_labels _ config).2 hnone⟩
  · rw [← hmerchant, ← hamazon]
  · rw [← hmerchant', ← hpassthrough]

end Classification

end AffiliateLinks
