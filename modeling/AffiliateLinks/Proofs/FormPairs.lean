import AffiliateLinks.Proofs.TagPlacement
import AffiliateLinks.Proofs.Utf8Reading

/-!
# The pairs of a tagged URL

A tag is placed among the segments of a query as they are written, and a reader of the query sees
pairs of decoded keys and values. Both agree on the pairs with other keys. They agree on the tag where
every segment whose key stands for that of a tag spells it letter by letter; a segment that spells it
by an escape stays beside the tag that is placed.
-/

namespace AffiliateLinks

namespace Form

lemma decode_eq_self {t : Text} (h : ∀ c ∈ t, c ≠ '+' ∧ c ≠ '%') : decode t = t := by
  have hmap : (t.map fun c => if c = '+' then ' ' else c) = t := by
    refine Eq.trans (List.map_congr_left ?_) (List.map_id t)
    intro c hc
    exact if_neg (h c hc).1
  have hpercent : 0x25 ∉ Utf8.encode t := by
    intro hb
    have hc := Utf8.mem_of_mem_encode hb (by decide)
    exact (h _ hc).2 (by decide)
  rw [decode, hmap, Percent.decode_eq_self hpercent, Utf8.decodeLossy_encode]

lemma pair_of_key {key : Text} (h : ∀ c ∈ key, c ≠ '+' ∧ c ≠ '%' ∧ c ≠ '=') :
    pair key = (key, []) ∧ ∀ value, pair (key ++ '=' :: value) = (key, decode value) := by
  have hkey : decode key = key := decode_eq_self fun c hc => ⟨(h c hc).1, (h c hc).2.1⟩
  have hsign : '=' ∉ key := fun hc => (h _ hc).2.2 rfl
  constructor
  · rw [pair, Text.cut?_eq_none_iff.2 hsign, hkey]
  · intro value
    have hcut : Text.cut? '=' (key ++ '=' :: value) = some (key, value) :=
      Text.cut?_eq_some_iff.2 ⟨rfl, hsign⟩
    simp only [pair, hcut, hkey]

end Form

namespace AmazonLink

open Form

variable {tag s : Text} {ss ts : List Text}

lemma pair_tagKey : pair tagKey = (tagKey, []) ∧
    ∀ value, pair (tagKey ++ '=' :: value) = (tagKey, decode value) :=
  pair_of_key (Text.forall_of_all (by decide))

lemma fst_pair_of_hasTagKey (h : HasTagKey s) : (pair s).1 = tagKey := by
  rcases h with rfl | ⟨value, rfl⟩
  · rw [pair_tagKey.1]
  · rw [pair_tagKey.2]

lemma pair_tagSegment (h : Tag.IsPlain tag) : pair (tagSegment tag) = (tagKey, tag) := by
  have htag : decode tag = tag := decode_eq_self fun c hc =>
    ⟨h.ne hc (by decide), h.ne hc (by decide)⟩
  rw [tagSegment, pair_tagKey.2, htag]

/-- The pairs with other keys stay, in their order. -/
theorem Placed.filter_pairs_ne (h : Placed tag ss ts) :
    (ts.map pair).filter (·.1 ≠ tagKey) = (ss.map pair).filter (·.1 ≠ tagKey) := by
  rw [List.filter_map, List.filter_map]
  congr 1
  apply h.filter_eq
  intro s hs
  simp [fst_pair_of_hasTagKey hs]

/-- The tag that is placed is the only one exactly if no key is a tag's in another spelling. -/
theorem Placed.filter_pairs_eq_iff (h : Placed tag ss ts) (htag : Tag.IsPlain tag) :
    (ts.map pair).filter (·.1 = tagKey) = [(tagKey, tag)] ↔
      ∀ s ∈ ss, (pair s).1 = tagKey → HasTagKey s := by
  rw [List.filter_map]
  constructor
  · -- Two segments would be read as a tag, and they differ in the spelling of the key.
    intro heq s hs hkey
    apply Decidable.byContradiction
    intro hnot
    obtain ⟨r, hr, _⟩ := List.map_eq_singleton_iff.1 heq
    have hmem {q : Text} (hq : q ∈ ts) (hkey : (pair q).1 = tagKey) : q = r := by
      apply List.mem_singleton.1
      rw [← hr]
      exact List.mem_filter.2 ⟨hq, by simpa using hkey⟩
    have hs' := hmem (h.mem_of_mem hs hnot) hkey
    have htag' := hmem h.tag_mem (fst_pair_of_hasTagKey (hasTagKey_tagSegment tag))
    apply hnot
    rw [hs', ← htag']
    exact hasTagKey_tagSegment tag
  · intro hall
    have hkeys : ts.filter ((fun p => decide (p.1 = tagKey)) ∘ pair) = ts.filter isTagSegment := by
      apply List.filter_congr
      intro s hs
      rw [Bool.eq_iff_iff, isTagSegment_iff, Function.comp_apply, decide_eq_true_eq]
      refine ⟨fun hkey => ?_, fst_pair_of_hasTagKey⟩
      rw [placed_iff.1 h] at hs
      rcases mem_placeTag hs with rfl | hs
      · exact hasTagKey_tagSegment tag
      · exact hall s hs hkey
    rw [hkeys, placed_iff.1 h, filter_placeTag, List.map_singleton, pair_tagSegment htag]

end AmazonLink

lemma Form.pairs_eq (query : Text) : pairs query = (AmazonLink.segments query).map pair := by
  rw [pairs, AmazonLink.segments_eq]

namespace Url

/-- The query of a text in the form in which URLs are written. -/
def writtenQuery? (t : Text) : Option Text := (cutPart '?' (cutPart '#' t).1).2

lemma writtenQuery?_text {t q : Text} {u : Url} (h : parse? t = some u) (hu : u.IsHttp)
    (hq : '#' ∉ q) : writtenQuery? { u with query := some q }.text = some q := by
  have hfront : ∀ c ∈ u.scheme ++ ':' :: u.hierarchy, IsFrontChar c := by
    intro c hc
    rw [List.mem_append, List.mem_cons] at hc
    rcases hc with hc | rfl | hc
    · exact isFrontChar_of_mem_scheme hu hc
    · exact .of_bounds (by decide) (by decide) (by decide)
    · exact isFrontChar_of_mem_hierarchy h hu hc
  have htext : ({ u with query := some q } : Url).text =
      (u.scheme ++ ':' :: u.hierarchy ++ queryText (some q)) ++ fragmentText u.fragment := by
    rw [text_eq]
    simp only [List.append_assoc, List.cons_append]
    rfl
  have hnumber : '#' ∉ u.scheme ++ ':' :: u.hierarchy ++ queryText (some q) := by
    rw [List.mem_append, not_or]
    refine ⟨fun hc => (hfront _ hc).2.1 rfl, ?_⟩
    rw [queryText, List.mem_cons, not_or]
    exact ⟨by decide, hq⟩
  have hquestion : '?' ∉ u.scheme ++ ':' :: u.hierarchy := fun hc => (hfront _ hc).2.2.1 rfl
  rw [writtenQuery?, htext, cutPart_fragmentText hnumber, cutPart_queryText hquestion]

end Url

namespace AmazonLink

open Form

variable {tag url : Text} {u : Url}

/-- Tagging a URL keeps the pairs of its query that have other keys, in their order. Besides them the
query has the one pair with the tag exactly if each segment of the URL whose key is read as that of a
tag is written so. -/
theorem pairs_setTag_iff (hurl : Url.parse? url = some u) (hu : u.IsHttp) (htag : Tag.IsPlain tag) :
    let written := (setTag url tag).value
    ∃ query, Url.writtenQuery? written = some query ∧
      (∀ v, Url.parse? written = some v → v.query = some query) ∧
      (u.ReadsBack → ∃ v, Url.parse? written = some v) ∧
      (pairs query).filter (·.1 ≠ tagKey) = (pairs (u.query.getD [])).filter (·.1 ≠ tagKey) ∧
      ((pairs query).filter (·.1 = tagKey) = [(tagKey, tag)] ↔
        ∀ s ∈ (Text.split '&' (u.query.getD [])).filter fun s => s ≠ [],
          (pair s).1 = tagKey → HasTagKey s) := by
  intro written
  let query := tagQuery tag (u.query.getD [])
  have hset : ∀ c ∈ query, Percent.specialQuery c = false := fun _ =>
    Url.specialQuery_of_mem_tagged hurl hu htag
  have hwritten : written = { u with query := some query }.text := by
    rw [← Url.tagged_eq_of_isPlain hurl hu htag]
    exact value_setTag_of_some hurl hu
  have hplaced : Placed tag (segments (u.query.getD [])) (segments query) := by
    rw [segments_tagQuery htag]
    exact placed_placeTag tag _
  refine ⟨query, ?_, ?_, ?_, ?_, ?_⟩
  · rw [hwritten]
    apply Url.writtenQuery?_text hurl hu
    intro hc
    exact absurd (hset _ hc) (by decide)
  · intro v hv
    rw [hwritten, Url.parse?_text_of_query hurl hu hset] at hv
    obtain ⟨front, _, rfl⟩ := Option.map_eq_some_iff.1 hv
    rfl
  · intro hback
    rw [hwritten, ← Url.tagged_eq_of_isPlain hurl hu htag]
    exact ⟨_, hback.tagged_of_isPlain hurl hu htag⟩
  · rw [pairs_eq, pairs_eq]
    exact hplaced.filter_pairs_ne
  · rw [pairs_eq, ← segments_eq]
    exact hplaced.filter_pairs_eq_iff htag

/-- A key that spells that of a tag with an escape is left alone, and its tag is read first. -/
theorem exists_foreign_tag :
    let url := "https://amazon.com/dp/X?t%61g=old-20".toList
    let tag := "site-20".toList
    ∃ u ∈ Url.parse? url, u.IsHttp ∧ u.ReadsBack ∧ Tag.isValid tag = true ∧
      ∃ v ∈ Url.parse? (setTag url tag).value,
        pairs (v.query.getD []) = [(tagKey, "old-20".toList), (tagKey, tag)] ∧
        (pairs (v.query.getD [])).filter (·.1 = tagKey) ≠ [(tagKey, tag)] := by
  decide +kernel

/-- Keys are compared as they are written, and the others are read in any spelling. -/
theorem pairs_setTag_product :
    let url := "https://amazon.com/s?k=a+b&tag=old-20&%6B=%C3%A9&tag&tags".toList
    let tag := "site-20".toList
    let read := [("k", "a b"), ("tag", "site-20"), ("k", "é"), ("tags", "")]
    ∃ u, Url.parse? url = some u ∧ u.IsHttp ∧ Tag.IsPlain tag ∧ u.ReadsBack ∧
      (∀ s ∈ (Text.split '&' (u.query.getD [])).filter fun s => s ≠ [],
        (pair s).1 = tagKey → HasTagKey s) ∧
      ∃ v, Url.parse? (setTag url tag).value = some v ∧
        (pairs (v.query.getD [])).filter (·.1 = tagKey) = [(tagKey, tag)] ∧
        pairs (v.query.getD []) = read.map fun p => (p.1.toList, p.2.toList) := by
  intro url tag read
  have hread : ∃ u ∈ Url.parse? url, u.IsHttp ∧ u.ReadsBack ∧
      ∀ s ∈ (Text.split '&' (u.query.getD [])).filter fun s => s ≠ [],
        (pair s).1 = tagKey → HasTagKey s := by decide +kernel
  obtain ⟨u, hurl, hu, hback, hkeys⟩ := hread
  have htag : Tag.IsPlain tag := Text.forall_of_all (by decide)
  obtain ⟨query, _, hquery, hexists, _, hiff⟩ := pairs_setTag_iff hurl hu htag
  obtain ⟨v, hv⟩ := hexists hback
  have hpairs : ∀ v ∈ Url.parse? (setTag url tag).value, pairs (v.query.getD []) =
      read.map fun p => (p.1.toList, p.2.toList) := by decide +kernel
  refine ⟨u, hurl, hu, htag, hback, hkeys, v, hv, ?_, hpairs v hv⟩
  rw [hquery v hv, Option.getD_some]
  exact hiff.2 hkeys

end AmazonLink

end AffiliateLinks
