import AffiliateLinks.Proofs.MerchantLabels
import AffiliateLinks.Proofs.NumericHosts

/-!
# Skipped domains

The domains of the skip list are put into the form in which they are compared as texts, and the
domain of a link is read from a host. Both agree on names, whatever labels they have. A domain that is
an IPv4 address in an unusual spelling is stored in that spelling, while the host is written in the
usual one, so that links to it are not skipped.
-/

namespace AffiliateLinks

namespace Domain

variable {raw : Text}

/-- A domain that passes its check is plain, with and without a leading `www.`. -/
lemma isDomainChar_of_isValid (h : isValid (normalize raw) = true) :
    ∀ c ∈ Text.lower (Text.trim raw), IsDomainChar c := by
  have hdomain : ∀ c ∈ normalize raw, IsDomainChar c := by
    intro c hc
    simp only [isValid, Bool.and_eq_true, List.all_eq_true, Bool.or_eq_true,
      decide_eq_true_eq] at h
    have hchar := h.2 c hc
    unfold IsDomainChar
    rwa [← or_assoc]
  obtain hhost | ⟨-, hhost⟩ := withoutWww_eq_iff.1 (rfl : normalize raw = normalize raw)
  · rw [hhost]
    exact List.forall_mem_append.2 ⟨Text.forall_of_all (by decide), hdomain⟩
  · rwa [hhost]

lemma ne_nil_of_isValid (h : isValid (normalize raw) = true) : normalize raw ≠ [] := by
  intro hnil
  rw [hnil] at h
  cases h

end Domain

namespace Ipv4

/-- An address is written with figures and dots, so it has no `www.` label to lose. -/
lemma withoutWww_lower_write (a : Nat) : Domain.withoutWww (Text.lower (write a)) = write a := by
  have hbounds : ∀ c ∈ write a, c.toNat ≠ 119 ∧ ¬(65 ≤ c.toNat ∧ c.toNat ≤ 90) := by
    intro c hc
    obtain rfl | ⟨part, hpart, hc⟩ := Text.mem_join hc
    · decide
    · obtain ⟨i, -, rfl⟩ := List.mem_map.1 hpart
      have hdigit := Numeral.bounds_of_mem_write (by omega) (by omega) hc
      omega
  have hlower : Text.lower (write a) = write a := by
    refine Eq.trans (List.map_congr_left fun c hc => ?_) (List.map_id _)
    apply Ascii.eq_of_toNat_eq
    rw [Ascii.toNat_toLower, if_neg (hbounds c hc).2]
    rfl
  rw [hlower, Domain.withoutWww_eq_iff]
  refine .inr ⟨fun hwww => ?_, rfl⟩
  exact (hbounds 'w' (hwww.subset (by decide))).1 rfl

lemma write_ne_nil (a : Nat) : write a ≠ [] := by
  simp [write, Text.join]

end Ipv4

namespace Url

/-- The domain of a link with a plain host is what is read from that host. -/
lemma domain?_trim_eq_some_iff {s host tail d : Text}
    (hs : Text.lower s = "http".toList ∨ Text.lower s = "https".toList) (hne : host ≠ [])
    (h : ∀ c ∈ host, IsDomainChar c) (htail : BeginsPath tail) :
    domain? (Text.trim (s ++ "://".toList ++ host ++ tail)) = some d ↔
      d ≠ [] ∧ ∃ x, Host.special? host = some x ∧ Domain.withoutWww (Text.lower x.text) = d := by
  have hread := hostText_parse? hs hne h htail
  rw [domain?_eq_some_iff]
  apply and_congr_right'
  constructor
  · rintro ⟨u, hu, hd⟩
    rw [hu, Option.map_some] at hread
    obtain ⟨x, hx, htext⟩ := Option.map_eq_some_iff.1 hread.symm
    exact ⟨x, hx, htext ▸ hd⟩
  · rintro ⟨x, hx, hd⟩
    rw [hx, Option.map_some] at hread
    obtain ⟨u, hu, htext⟩ := Option.map_eq_some_iff.1 hread
    exact ⟨u, hu, htext ▸ hd⟩

end Url

namespace Classification

variable {url : Text} {config : Config}

lemma ofMerchant_eq_skipped_iff {d : Text} :
    (ofMerchant d config).method = .skipped ↔ d ∈ config.skipDomains := by
  unfold ofMerchant
  rw [← List.contains_iff_mem, ← Config.isSkippedDomain]
  split_ifs with hskip <;> simp [hskip]

/-- A link of the web is skipped if no merchant can be read from it but those of the skip list. -/
lemma ofUrl_eq_skipped_iff (h : isHttp (Text.trim url) = true) :
    (ofUrl url config).method = .skipped ↔
      ∀ d, Url.domain? (Text.trim url) = some d → d ∈ config.skipDomains := by
  unfold ofUrl
  dsimp only
  rw [if_pos h]
  cases hd : Url.domain? (Text.trim url) with
  | none => simp [skipped]
  | some d => simp [ofMerchant_eq_skipped_iff]

variable {amazonTag d s host tail : Text} {steps : List Config.Step}

lemma isHttp_trim (hs : Text.lower s = "http".toList ∨ Text.lower s = "https".toList)
    (rest : Text) : isHttp (Text.trim (s ++ "://".toList ++ rest)) = true := by
  have hblank : ∀ c ∈ s ++ "://".toList, Text.isBlank c = false := by
    refine List.forall_mem_append.2 ⟨fun c hc => ?_, Text.forall_of_all (by decide)⟩
    apply Text.isBlank_of_isPrintable
    exact Ascii.isPrintable_of_isAlpha (Url.isAlpha_of_lower hs c hc)
  have hfront := (Text.prefix_trim (by simp) hblank rest).map Char.toLower
  rw [List.map_append] at hfront
  rw [isHttp_iff]
  apply hs.imp <;>
    · intro hscheme
      change List.map Char.toLower s = _ at hscheme
      rwa [hscheme] at hfront

/-- A link to a domain of the skip list is skipped, in any letter case and whatever its path is, except
if the domain is an IPv4 address that the skip list does not have in its usual spelling. -/
theorem ofUrl_skipDomain_iff (hbuild : Config.build amazonTag steps = .ok config)
    (hd : d ∈ (Config.Draft.applyAll { amazonTag } steps).skipDomains)
    (hs : Text.lower s = "http".toList ∨ Text.lower s = "https".toList)
    (hhost : Text.lower host = Text.lower (Text.trim d)) (htail : Url.BeginsPath tail) :
    (ofUrl (s ++ "://".toList ++ host ++ tail) config).method = .skipped ↔
      ∀ a, Ipv4.read? (Text.lower (Text.trim d)) = some a → Ipv4.write a ∈ config.skipDomains := by
  have hlist := (Config.Draft.builds_of_build hbuild).skipDomains
  have hvalid := (Config.buildDomains_eq_ok_iff.1 hlist).2 d hd
  have hstored : Domain.normalize d ∈ config.skipDomains :=
    (Config.mem_buildDomains hlist).2 (List.mem_map_of_mem hd)
  have hplain : ∀ c ∈ host, IsDomainChar c := by
    intro c hc
    refine .of_toLower (Domain.isDomainChar_of_isValid hvalid _ ?_)
    rw [← hhost]
    exact List.mem_map_of_mem hc
  have hne : host ≠ [] := by
    rintro rfl
    apply Domain.ne_nil_of_isValid hvalid
    rw [Domain.normalize, ← hhost]
    rfl
  have hhttp : isHttp (Text.trim (s ++ "://".toList ++ host ++ tail)) = true := by
    rw [List.append_assoc]
    exact isHttp_trim hs (host ++ tail)
  rw [ofUrl_eq_skipped_iff hhttp, ← hhost]
  simp only [Url.domain?_trim_eq_some_iff hs hne hplain htail]
  constructor
  · intro hall a ha
    have hread := (Host.special?_eq_ipv4_iff hplain).2 ha
    exact hall _ ⟨Ipv4.write_ne_nil a, .ipv4 a, hread, Ipv4.withoutWww_lower_write a⟩
  · rintro hall _ ⟨-, x, hx, rfl⟩
    obtain ⟨a, ha, rfl⟩ | rfl := Host.special?_cases hplain hx
    · rw [Host.text, Ipv4.withoutWww_lower_write]
      exact hall a ha
    · rw [Host.text, Text.lower_lower, hhost]
      exact hstored

/-- An address whose usual spelling is on the skip list too, and a name with a second `www.` label and
an empty one. -/
theorem ofUrl_skipDomain_address :
    let address := " 0x7F.1".toList
    let name := "www.WWW.My--Shop..Example\n".toList
    let steps : List Config.Step :=
      [.clearSkipDomains, .skipDomains [address, "127.0.0.1".toList, name]]
    ∃ config, Config.build "site-20".toList steps = .ok config ∧
      (ofUrl "HTTPS://0X7f.1/a b?c".toList config).method = .skipped ∧
      (ofUrl "http://www.www.my--shop..EXAMPLE".toList config).method = .skipped := by
  intro address name steps
  let config := { Config.ofTag "site-20".toList with
    skipDomains := ["0x7f.1", "127.0.0.1", "www.my--shop..example"].map String.toList }
  have hbuild : Config.build "site-20".toList steps = .ok config := by rfl
  have hlist : (Config.Draft.applyAll { amazonTag := "site-20".toList } steps).skipDomains =
      [address, "127.0.0.1".toList, name] := by rfl
  refine ⟨config, hbuild, ?_, ?_⟩
  · have hs : Text.lower "HTTPS".toList = "http".toList ∨ Text.lower "HTTPS".toList = "https".toList :=
      .inr rfl
    have hhost : Text.lower "0X7f.1".toList = Text.lower (Text.trim address) := by decide
    have htail : Url.BeginsPath "/a b?c".toList := .inr ⟨_, rfl⟩
    have hd : address ∈ (Config.Draft.applyAll { amazonTag := "site-20".toList } steps).skipDomains := by
      rw [hlist]
      exact List.mem_cons_self
    have hread : Ipv4.read? (Text.lower (Text.trim address)) = some 0x7F000001 := by decide +kernel
    refine (ofUrl_skipDomain_iff hbuild hd hs hhost htail).2 fun a ha => ?_
    rw [hread] at ha
    cases ha
    decide +kernel
  · have hs : Text.lower "http".toList = "http".toList ∨ Text.lower "http".toList = "https".toList :=
      .inl rfl
    have hhost : Text.lower "www.www.my--shop..EXAMPLE".toList = Text.lower (Text.trim name) := by
      decide
    have hd : name ∈ (Config.Draft.applyAll { amazonTag := "site-20".toList } steps).skipDomains := by
      rw [hlist]
      simp
    have hread : Ipv4.read? (Text.lower (Text.trim name)) = none := by decide +kernel
    refine (ofUrl_skipDomain_iff hbuild hd hs hhost (.inl rfl)).2 fun a ha => ?_
    rw [hread] at ha
    cases ha

/-- A loopback address that was put on the skip list as `127.1` is monetized. -/
theorem exists_skipDomain_not_skipped :
    ∃ config, Config.build "site-20".toList
        [.skimlinksId "1X2".toList, .skipDomains ["127.1".toList]] = .ok config ∧
      ofUrl "http://127.1/".toList config = ⟨.skimlinks, "127.0.0.1".toList⟩ := by
  let config := { Config.ofTag "site-20".toList with
    skimlinksId := some "1X2".toList
    skipDomains := Text.insert "127.1".toList (Config.ofTag []).skipDomains }
  refine ⟨config, by rfl, by decide +kernel⟩

end Classification

end AffiliateLinks
