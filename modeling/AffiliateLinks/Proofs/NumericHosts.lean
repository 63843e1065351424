import AffiliateLinks.Proofs.Numerals
import AffiliateLinks.Proofs.PlainHosts
import AffiliateLinks.Proofs.Steps

/-!
# Numeric hosts

A plain host is read as an IPv4 address exactly if its labels are the parts of one: labels of numbers
pass every check that is made of host names.
-/

namespace AffiliateLinks

namespace Ipv4

variable {t host : Text} {a : Nat}

/-- A part of an address begins with a figure. -/
lemma exists_cons_of_part? (h : (part? t).isSome = true) : ∃ c r, t = c :: r ∧ c.isDigit = true := by
  -- A part is empty, has one of the fronts `0x`, `0X` and `0`, or is a decimal.
  unfold part? at h
  split at h
  · cases h
  · exact ⟨'0', _, rfl, by decide⟩
  · exact ⟨'0', _, rfl, by decide⟩
  · exact ⟨'0', _, rfl, by decide⟩
  · unfold Numeral.read? at h
    split at h
    · cases h
    · next hdigits =>
      simp only [Bool.or_eq_true, Bool.not_eq_true', not_or, Bool.not_eq_true, Bool.not_eq_false,
        List.isEmpty_eq_false_iff] at hdigits
      obtain ⟨hne, hall⟩ := hdigits
      obtain ⟨c, r, rfl⟩ := List.exists_cons_of_ne_nil hne
      refine ⟨c, r, rfl, ?_⟩
      rw [Ascii.isDigit_iff, ← Numeral.isDigit_ten_iff]
      exact List.all_eq_true.1 hall c List.mem_cons_self

/-- All labels of an address are parts, but for an empty one at the end. -/
lemma exists_parts_of_read? (h : read? host = some a) :
    ∃ parts, parts ≠ [] ∧ (∀ p ∈ parts, (part? p).isSome = true) ∧
      (Text.split '.' host = parts ∨ Text.split '.' host = parts ++ [[]]) := by
  unfold read? at h
  dsimp only at h
  generalize hparts : (if (Text.split '.' host).getLast? = some [] then (Text.split '.' host).dropLast
    else Text.split '.' host) = parts at h
  by_cases hlong : 4 < parts.length
  · rw [if_pos hlong] at h
    cases h
  · rw [if_neg hlong] at h
    obtain ⟨numbers, hnumbers, h⟩ := Option.bind_eq_some_iff.1 h
    refine ⟨parts, ?_, fun p hp => isSome_of_mapM_eq_some hnumbers hp, ?_⟩
    · rintro rfl
      cases hnumbers
      cases h
    · split at hparts
      · next hlast =>
        obtain ⟨front, hfront⟩ := List.getLast?_eq_some_iff.1 hlast
        right
        rw [← hparts, hfront, List.dropLast_concat]
      · exact .inl hparts

lemma endsInNumber_of_read? (h : read? host = some a) : endsInNumber host = true := by
  obtain ⟨parts, hne, hparts, hsplit⟩ := exists_parts_of_read? h
  obtain ⟨front, p, rfl⟩ := List.eq_nil_or_concat parts |>.resolve_left hne
  have hp := hparts p (by simp)
  obtain ⟨c, r, rfl, -⟩ := exists_cons_of_part? hp
  have hlabel : lastLabel? (Text.split '.' host) = some (c :: r) := by
    obtain hsplit | hsplit := hsplit <;> simp [hsplit, lastLabel?]
  unfold endsInNumber
  rw [hlabel]
  simp [hp]

end Ipv4

namespace Idna

variable {label mapped : Text}

lemma isRightToLeft_of_isAscii (h : isAscii label = true) : isRightToLeft label = false := by
  have hnames : ∀ name ∈ ["EN", "L", "ES", "ET", "CS", "ON"],
      isOneOf "R AL AN" name.toList = false := by decide
  have hchar (c : Char) : isOneOf "R AL AN" (asciiDirection c) = false := by
    unfold asciiDirection
    split_ifs <;> exact hnames _ (by simp)
  unfold isRightToLeft
  rw [List.any_eq_false]
  intro c hc
  have hascii : c.toNat < 0x80 := by
    have := List.all_eq_true.1 h c hc
    simpa [Punycode.isAscii] using this
  rw [direction, if_pos hascii, hchar]
  simp

/-- A host in ASCII is kept if none of its labels looks like Punycode. -/
lemma hostOfMapped?_eq_self (hascii : isAscii mapped = true)
    (hallowed : ∀ c ∈ mapped, isForbidden c = false)
    (hlabels : ∀ l ∈ Text.split '.' mapped, ¬marker <+: l) : hostOfMapped? mapped = some mapped := by
  have hlabel : ∀ l ∈ Text.split '.' mapped, isAscii l = true :=
    fun l hl => isAscii_of_mem_split hascii hl
  have hread : (Text.split '.' mapped).mapM labels? =
      some ((Text.split '.' mapped).map fun l => (l, l)) := by
    rw [mapM_eq_some_iff, List.map_map]
    refine List.map_congr_left fun l hl => ?_
    have hplain : Text.after? marker l = none := Text.after?_eq_none_iff.2 (hlabels l hl)
    rw [labels?, if_pos (hlabel l hl), label?, hplain]
    rfl
  have hdirected : directed (Text.split '.' mapped) = true := by
    have hnone : (Text.split '.' mapped).any isRightToLeft = false := by
      rw [List.any_eq_false]
      intro l hl
      simp [isRightToLeft_of_isAscii (hlabel l hl)]
    simp [directed, hnone]
  have hany : mapped.any isForbidden = false := by
    rw [List.any_eq_false]
    intro c hc
    simp [hallowed c hc]
  rw [hostOfMapped?, hany, hread]
  simp [Function.comp_def, hdirected, Text.join_split]

end Idna

namespace Host

variable {host : Text} {a : Nat}

/-- A plain host stands for the address that its numbers make up. -/
theorem special?_eq_ipv4_iff (h : ∀ c ∈ host, IsDomainChar c) :
    special? host = some (.ipv4 a) ↔ Ipv4.read? (Text.lower host) = some a := by
  have hplain := isDomainChar_lower h
  constructor
  · intro hx
    obtain ⟨b, hb, heq⟩ | heq := special?_cases h hx
    · cases heq
      exact hb
    · cases heq
  · intro hread
    have hempty : Text.lower host ≠ [] := by
      intro hnil
      rw [hnil] at hread
      cases hread
    have hlabels : ∀ l ∈ Text.split '.' (Text.lower host), ¬Idna.marker <+: l := by
      intro l hl hmarker
      obtain ⟨parts, -, hparts, hsplit⟩ := Ipv4.exists_parts_of_read? hread
      have hpart : l ∈ parts ∨ l = [] := by
        obtain hsplit | hsplit := hsplit
        · exact .inl (hsplit ▸ hl)
        · rw [hsplit] at hl
          simpa using hl
      obtain hpart | rfl := hpart
      · obtain ⟨c, r, rfl, hdigit⟩ := Ipv4.exists_cons_of_part? (hparts l hpart)
        obtain ⟨rest, hrest⟩ := hmarker
        cases hrest
        cases hdigit
      · cases hmarker.subset (List.mem_cons_self)
    have hself := Idna.hostOfMapped?_eq_self (isAscii_of_isDomainChar hplain)
      (fun c hc => (hplain c hc).isForbidden) hlabels
    simp [special?_eq h, ofMapped?, hself, hempty, Ipv4.endsInNumber_of_read? hread, hread]

end Host

end AffiliateLinks
