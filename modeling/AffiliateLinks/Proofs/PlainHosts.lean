import AffiliateLinks.Proofs.TrimmedUrl
import AffiliateLinks.Proofs.Utf8Reading

/-!
# URLs with plain hosts

A host of letters, figures, hyphens and dots is read as itself in lower case, as an IPv4 address, or
not at all. A URL that is a scheme of the web, such a host and a path is read up to the host no matter
what the path holds.
-/

namespace AffiliateLinks

/-- The characters that a domain can be written with in ASCII. -/
def IsDomainChar (c : Char) : Prop := c.isAlphanum = true ∨ c = '-' ∨ c = '.'

instance (c : Char) : Decidable (IsDomainChar c) := inferInstanceAs (Decidable (_ ∨ _))

namespace IsDomainChar

variable {c d : Char}

lemma iff_toNat : IsDomainChar c ↔ c.toNat = 45 ∨ c.toNat = 46 ∨ (48 ≤ c.toNat ∧ c.toNat ≤ 57) ∨
    (65 ≤ c.toNat ∧ c.toNat ≤ 90) ∨ 97 ≤ c.toNat ∧ c.toNat ≤ 122 := by
  have hhyphen : c = '-' ↔ c.toNat = 45 :=
    ⟨fun h => h ▸ rfl, fun h => Ascii.eq_of_toNat_eq (d := '-') h⟩
  have hdot : c = '.' ↔ c.toNat = 46 := ⟨fun h => h ▸ rfl, fun h => Ascii.eq_of_toNat_eq (d := '.') h⟩
  unfold IsDomainChar
  rw [Ascii.isAlphanum_iff, hhyphen, hdot]
  omega

lemma ne (h : IsDomainChar c) (hd : ¬IsDomainChar d) : c ≠ d := by
  rintro rfl
  exact hd h

lemma isPrintable (h : IsDomainChar c) : IsPrintable c := by
  rw [iff_toNat] at h
  unfold IsPrintable
  omega

lemma isForbidden (h : IsDomainChar c) : Idna.isForbidden c = false := by
  have hmark : ∀ d ∈ "#%/:<>?@[\\]^|".toList, ¬IsDomainChar d := Text.forall_of_all (by decide)
  have hnot : c ∉ "#%/:<>?@[\\]^|".toList := fun hc => hmark c hc h
  have hprintable := h.isPrintable
  unfold IsPrintable at hprintable
  simp only [Idna.isForbidden, Bool.or_eq_false_iff, decide_eq_false_iff_not, List.contains_eq_mem]
  refine ⟨⟨by omega, ?_⟩, hnot⟩
  rintro rfl
  exact absurd hprintable (by decide)

lemma of_toLower (h : IsDomainChar c.toLower) : IsDomainChar c := by
  rw [iff_toNat, Ascii.toNat_toLower] at h
  rw [iff_toNat]
  split at h <;> omega

lemma toLower (h : IsDomainChar c) : IsDomainChar c.toLower := by
  rw [iff_toNat] at h
  rw [iff_toNat, Ascii.toNat_toLower]
  split <;> omega

end IsDomainChar

lemma Ascii.isPrintable_of_isAlpha {c : Char} (h : c.isAlpha = true) : IsPrintable c := by
  rw [isAlpha_iff] at h
  unfold IsPrintable
  omega

lemma Text.lower_lower (t : Text) : lower (lower t) = lower t := by
  have hchar (c : Char) : c.toLower.toLower = c.toLower := by
    apply Ascii.eq_of_toNat_eq
    rw [Ascii.toNat_toLower, Ascii.toNat_toLower]
    split_ifs <;> omega
  simp [lower, hchar]

namespace Idna

lemma fst_of_labels? {label : Text} {pair : Text × Text} (hlabel : isAscii label = true)
    (h : labels? label = some pair) : pair.1 = label := by
  rw [labels?, if_pos hlabel] at h
  obtain ⟨u, _, rfl⟩ := Option.map_eq_some_iff.1 h
  rfl

lemma map_fst_of_mapM {labels : List Text} {pairs : List (Text × Text)}
    (h : labels.mapM labels? = some pairs) (hlabels : ∀ l ∈ labels, isAscii l = true) :
    pairs.map Prod.fst = labels := by
  induction labels generalizing pairs with
  | nil =>
    cases h
    rfl
  | cons l ls ih =>
    rw [List.mapM_cons] at h
    obtain ⟨pair, hpair, h⟩ := Option.bind_eq_some_iff.1 h
    obtain ⟨rest, hrest, h⟩ := Option.bind_eq_some_iff.1 h
    cases h
    obtain ⟨hl, hls⟩ := List.forall_mem_cons.1 hlabels
    rw [List.map_cons, fst_of_labels? hl hpair, ih hrest hls]

lemma isAscii_of_mem_split {t l : Text} {d : Char} (h : isAscii t = true) (hl : l ∈ Text.split d t) :
    isAscii l = true :=
  List.all_eq_true.2 fun c hc => List.all_eq_true.1 h c (Text.mem_of_mem_split hl hc).1

/-- Labels in ASCII stay as they are, if they may stand at all. -/
lemma eq_of_hostOfMapped? {mapped d : Text} (hascii : isAscii mapped = true)
    (h : hostOfMapped? mapped = some d) : d = mapped := by
  unfold hostOfMapped? at h
  split at h
  · cases h
  · obtain ⟨pairs, hpairs, h⟩ := Option.bind_eq_some_iff.1 h
    split at h
    · cases h
      rw [map_fst_of_mapM hpairs fun l hl => isAscii_of_mem_split hascii hl, Text.join_split]
    · cases h

end Idna

namespace Host

variable {host : Text}

lemma isDomainChar_lower (h : ∀ c ∈ host, IsDomainChar c) : ∀ c ∈ Text.lower host, IsDomainChar c := by
  intro c hc
  obtain ⟨d, hd, rfl⟩ := List.mem_map.1 hc
  exact (h d hd).toLower

lemma isAscii_of_isDomainChar (h : ∀ c ∈ host, IsDomainChar c) : Idna.isAscii host = true := by
  refine List.all_eq_true.2 fun c hc => ?_
  have hhigh := (h c hc).isPrintable.2
  simp only [Punycode.isAscii, decide_eq_true_eq]
  omega

/-- What a text in lower case and in ASCII is read as. -/
def ofMapped? (mapped : Text) : Option Host :=
  (Idna.hostOfMapped? mapped).bind fun d =>
    if d.isEmpty then none
    else if Ipv4.endsInNumber d then (Ipv4.read? d).map .ipv4
    else some (.name d)

lemma special?_eq (h : ∀ c ∈ host, IsDomainChar c) : special? host = ofMapped? (Text.lower host) := by
  have hbracket : host.head? ≠ some '[' := by
    intro hhead
    exact (h _ (List.mem_of_mem_head? hhead)).ne (by decide) rfl
  have hpercent : 0x25 ∉ Utf8.encode host := by
    intro hb
    have hc : '%' ∈ host := Utf8.mem_of_mem_encode hb (by decide)
    exact (h _ hc).ne (by decide) rfl
  have hascii := isAscii_of_isDomainChar h
  rw [special?, if_neg hbracket, ofDomain?_eq, Percent.decode_eq_self hpercent, Idna.host?,
    Utf8.decode?_encode, Option.bind_some, Idna.hostOfText?_eq, if_pos hascii, Option.bind_some,
    ofMapped?]

/-- A plain host is no host, an address, or its own name in lower case. -/
theorem special?_cases {x : Host} (h : ∀ c ∈ host, IsDomainChar c) (hx : special? host = some x) :
    (∃ a, Ipv4.read? (Text.lower host) = some a ∧ x = .ipv4 a) ∨ x = .name (Text.lower host) := by
  rw [special?_eq h, ofMapped?] at hx
  obtain ⟨d, hd, hx⟩ := Option.bind_eq_some_iff.1 hx
  obtain rfl := Idna.eq_of_hostOfMapped? (isAscii_of_isDomainChar (isDomainChar_lower h)) hd
  split at hx
  · cases hx
  · split at hx
    · obtain ⟨a, ha, rfl⟩ := Option.map_eq_some_iff.1 hx
      exact .inl ⟨a, ha, rfl⟩
    · cases hx
      exact .inr rfl

end Host

namespace Authority

lemma cutHost_eq {t : Text} (h : ∀ c ∈ t, c ≠ ':' ∧ c ≠ '[') : cutHost false t = (t, []) := by
  induction t with
  | nil => rfl
  | cons c t ih =>
    obtain ⟨⟨hcolon, hbracket⟩, ht⟩ := List.forall_mem_cons.1 h
    simp [cutHost, hcolon, hbracket, ih ht]

lemma special?_eq_map {scheme host : Text} (h : ∀ c ∈ host, IsDomainChar c) :
    special? scheme host = (Host.special? host).map fun x => ⟨[], none, x, none⟩ := by
  have hat : cutLastAt? host = none := by
    have hmem : '@' ∉ host.reverse := fun hc => (h _ (List.mem_reverse.1 hc)).ne (by decide) rfl
    rw [cutLastAt?, Text.cut?_eq_none_iff.2 hmem, Option.map_none]
  have hcut : cutHost false host = (host, []) :=
    cutHost_eq fun c hc => ⟨(h c hc).ne (by decide), (h c hc).ne (by decide)⟩
  rw [special?, hat, Option.getD_none]
  dsimp only
  rw [hcut]
  cases Host.special? host with
  | none => rfl
  | some x => rfl

end Authority

namespace Url

variable {s host tail p : Text}

/-- Nothing follows, or a path does. -/
def BeginsPath (t : Text) : Prop := t = [] ∨ ∃ path, t = '/' :: path

lemma exists_clean_trim (hp : ∀ c ∈ p, IsPrintable c) (htail : BeginsPath tail) :
    ∃ tail', clean (Text.trim (p ++ tail)) = p ++ tail' ∧ BeginsPath tail' := by
  have hblank {q : Text} (hq : ∀ c ∈ q, IsPrintable c) : ∀ c ∈ q, Text.isBlank c = false :=
    fun c hc => Text.isBlank_of_isPrintable (hq c hc)
  obtain rfl | ⟨path, rfl⟩ := htail
  · refine ⟨[], ?_, .inl rfl⟩
    rw [List.append_nil, Text.trim_eq_self (hblank hp), clean_eq_self fun c hc => (hp c hc).1]
  · -- The slash is kept by both, whatever is taken away behind it.
    have hslash : ∀ c ∈ p ++ ['/'], IsPrintable c := by
      refine List.forall_mem_append.2 ⟨hp, ?_⟩
      simp [IsPrintable]
    have hne : p ++ ['/'] ≠ [] := by simp
    obtain ⟨rest, hrest⟩ := Text.prefix_trim hne (hblank hslash) path
    obtain ⟨rest', hrest'⟩ := prefix_clean hne (fun c hc => (hslash c hc).1) rest
    refine ⟨'/' :: rest', ?_, .inr ⟨rest', rfl⟩⟩
    rw [List.append_cons, ← hrest, ← hrest', List.append_assoc, List.singleton_append]

lemma exists_cutPart {d : Char} (hp : d ∉ p) (hd : d ≠ '/') (htail : BeginsPath tail) :
    ∃ tail', (cutPart d (p ++ tail)).1 = p ++ tail' ∧ BeginsPath tail' := by
  obtain rfl | ⟨path, rfl⟩ := htail
  · refine ⟨[], ?_, .inl rfl⟩
    rw [List.append_nil, cutPart_of_not_mem hp]
  · obtain ⟨-, hpath⟩ | ⟨a, b, rfl, ha, -⟩ := cutPart_cases d path
    · refine ⟨'/' :: path, ?_, .inr ⟨path, rfl⟩⟩
      rw [cutPart_of_not_mem (by simp [hp, hd, hpath])]
    · refine ⟨'/' :: a, ?_, .inr ⟨a, rfl⟩⟩
      have hfront : d ∉ p ++ '/' :: a := by simp [hp, hd, ha]
      have hcut := cutPart_append hfront b
      rw [List.append_assoc, List.cons_append] at hcut
      rw [hcut]

/-- A URL with a plain host is read up to its host. -/
lemma readWeb?_host {scheme : Text} (hne : host ≠ []) (h : ∀ c ∈ host, IsDomainChar c)
    (htail : BeginsPath tail) : readWeb? scheme ("//".toList ++ host ++ tail) =
      (Host.special? host).map fun x => (some ⟨[], none, x, none⟩, .read true (tail.drop 1)) := by
  have hslash : ∀ c ∈ host, isSlash c = false := by
    intro c hc
    simp [isSlash, (h c hc).ne (show ¬IsDomainChar '/' by decide),
      (h c hc).ne (show ¬IsDomainChar '\\' by decide)]
  have hstart : ("//".toList ++ host ++ tail).dropWhile isSlash = host ++ tail := by
    obtain ⟨c, host, rfl⟩ := List.exists_cons_of_ne_nil hne
    have hc := hslash c List.mem_cons_self
    have hbar : isSlash '/' = true := by decide
    simp [hc, hbar]
  have hnot : ∀ c ∈ host, (!isSlash c) = true := fun c hc => by rw [hslash c hc, Bool.not_false]
  have htake : (host ++ tail).takeWhile (fun c => !isSlash c) = host := by
    rw [List.takeWhile_append_of_pos hnot]
    obtain rfl | ⟨path, rfl⟩ := htail
    · simp
    · simp [isSlash]
  have hdrop : (host ++ tail).dropWhile (fun c => !isSlash c) = tail := by
    rw [List.dropWhile_append_of_pos hnot]
    obtain rfl | ⟨path, rfl⟩ := htail
    · simp
    · simp [isSlash]
  unfold readWeb?
  simp only [hstart, htake, hdrop, Authority.special?_eq_map h]
  cases Host.special? host with
  | none => rfl
  | some x => rfl

lemma isAlpha_of_lower (hs : Text.lower s = "http".toList ∨ Text.lower s = "https".toList) :
    ∀ c ∈ s, c.isAlpha = true := by
  intro c hc
  have hletters : ∀ d ∈ Text.lower s, 97 ≤ d.toNat ∧ d.toNat ≤ 122 := by
    obtain hs | hs := hs <;> rw [hs] <;> exact Text.forall_of_all (by decide)
  have hlower := hletters _ (List.mem_map_of_mem hc)
  rw [Ascii.toNat_toLower] at hlower
  rw [Ascii.isAlpha_iff]
  split at hlower <;> omega

lemma cutScheme?_of_lower (hs : Text.lower s = "http".toList ∨ Text.lower s = "https".toList)
    (rest : Text) : cutScheme? (s ++ ':' :: rest) = some (Text.lower s, rest) := by
  have halpha := isAlpha_of_lower hs
  have hcolon : ':' ∉ s := fun hc => absurd (halpha _ hc) (by decide)
  have hchars : ∀ c ∈ s, isSchemeChar c = true := by
    intro c hc
    simp [isSchemeChar, Char.isAlphanum, halpha c hc]
  rw [cutScheme?_eq_some_iff]
  refine ⟨s, rfl, hcolon, ?_, rfl⟩
  rw [List.all_eq_true.2 hchars, Bool.and_true]
  cases s with
  | nil => simp [Text.lower] at hs
  | cons c s => simp [halpha c List.mem_cons_self]

/-- A URL of the web with a plain host leads to what the host alone is read as. -/
theorem hostText_parse? (hs : Text.lower s = "http".toList ∨ Text.lower s = "https".toList)
    (hne : host ≠ []) (h : ∀ c ∈ host, IsDomainChar c) (htail : BeginsPath tail) :
    (parse? (Text.trim (s ++ "://".toList ++ host ++ tail))).map hostText =
      (Host.special? host).map Host.text := by
  have hprintable : ∀ c ∈ s ++ "://".toList ++ host, IsPrintable c := by
    refine List.forall_mem_append.2 ⟨List.forall_mem_append.2 ⟨fun c hc => ?_, ?_⟩, ?_⟩
    · exact Ascii.isPrintable_of_isAlpha (isAlpha_of_lower hs c hc)
    · simp [IsPrintable]
    · exact fun c hc => (h c hc).isPrintable
  have hmark {d : Char} (hd : ¬IsDomainChar d) (hslash : d ≠ '/') : d ∉ "//".toList ++ host := by
    have hhost : d ∉ host := fun hc => (h d hc).ne hd rfl
    simp [hslash, hhost]
  obtain ⟨tail₁, hclean, htail₁⟩ := exists_clean_trim hprintable htail
  obtain ⟨tail₂, hfragment, htail₂⟩ :=
    exists_cutPart (hmark (d := '#') (by decide) (by decide)) (by decide) htail₁
  obtain ⟨tail₃, hquery, htail₃⟩ :=
    exists_cutPart (hmark (d := '?') (by decide) (by decide)) (by decide) htail₂
  have hcut := cutScheme?_of_lower hs ("//".toList ++ host ++ tail₁)
  have hshape : s ++ "://".toList ++ host ++ tail₁ = s ++ ':' :: ("//".toList ++ host ++ tail₁) := by
    simp
  rw [parse?_eq, hclean, hshape, hcut, Option.bind_some, ofScheme?_of_http hs, hfragment, hquery,
    readWeb?_host hne h htail₃, Option.map_map, Option.map_map]
  rfl

end Url

end AffiliateLinks
