import AffiliateLinks.Proofs.TaggedUrl

/-!
# Placing a tag in a URL

A tag takes the place of the first segment of the query that has its key, or comes last where no
segment has it. Every other segment stays as it is written, and so does every other part of the URL.
Of two tags that are placed one after the other, the second one stays.
-/

namespace AffiliateLinks.AmazonLink

variable {tag s : Text} {ss ts : List Text}

/-- The key of the segment is that of a tag, letter by letter. -/
def HasTagKey (s : Text) : Prop := s = tagKey ∨ ∃ value, s = tagKey ++ '=' :: value

lemma isTagSegment_iff : isTagSegment s = true ↔ HasTagKey s := by
  constructor
  · intro h
    rw [isTagSegment, decide_eq_true_eq, segmentKey] at h
    cases hcut : Text.cut? '=' s with
    | none =>
      rw [hcut] at h
      exact .inl h
    | some p =>
      rw [hcut] at h
      obtain ⟨hs, _⟩ := Text.cut?_eq_some_iff.1 hcut
      exact .inr ⟨p.2, by rw [hs, ← h]; rfl⟩
  · rintro (rfl | ⟨value, rfl⟩)
    · decide
    · exact isTagSegment_tagSegment value

instance : DecidablePred HasTagKey := fun _ => decidable_of_iff _ isTagSegment_iff

lemma isTagSegment_eq_false_iff : isTagSegment s = false ↔ ¬HasTagKey s := by
  rw [← isTagSegment_iff, Bool.not_eq_true]

lemma hasTagKey_tagSegment (tag : Text) : HasTagKey (tagSegment tag) := .inr ⟨tag, rfl⟩

/-- What the segments of a query become when a tag is placed among them. -/
inductive Placed (tag : Text) : List Text → List Text → Prop
  | replaced (front : List Text) (s : Text) (back : List Text) (hfront : ∀ r ∈ front, ¬HasTagKey r)
      (hs : HasTagKey s) : Placed tag (front ++ s :: back)
        (front ++ tagSegment tag :: back.filter fun r => ¬HasTagKey r)
  | appended (ss : List Text) (h : ∀ s ∈ ss, ¬HasTagKey s) : Placed tag ss (ss ++ [tagSegment tag])

lemma Placed.cons (hs : ¬HasTagKey s) (h : Placed tag ss ts) : Placed tag (s :: ss) (s :: ts) := by
  cases h with
  | replaced front r back hfront hr =>
    exact .replaced (s :: front) r back (List.forall_mem_cons.2 ⟨hs, hfront⟩) hr
  | appended _ h => exact .appended (s :: ss) (List.forall_mem_cons.2 ⟨hs, h⟩)

lemma filter_isTagSegment (ss : List Text) :
    (ss.filter fun r => !isTagSegment r) = ss.filter fun r => ¬HasTagKey r := by
  apply List.filter_congr
  intro r _
  simp [← isTagSegment_iff]

lemma placed_placeTag (tag : Text) (ss : List Text) : Placed tag ss (placeTag tag ss) := by
  induction ss with
  | nil => exact .appended [] (by simp)
  | cons s ss ih =>
    by_cases hs : HasTagKey s
    · rw [placeTag_of_isTagSegment (isTagSegment_iff.2 hs), filter_isTagSegment]
      exact .replaced [] s ss (by simp) hs
    · rw [placeTag_of_not_isTagSegment (isTagSegment_eq_false_iff.2 hs)]
      exact ih.cons hs

lemma placeTag_append {front : List Text} (h : ∀ r ∈ front, ¬HasTagKey r) (ss : List Text) :
    placeTag tag (front ++ ss) = front ++ placeTag tag ss := by
  induction front with
  | nil => rfl
  | cons r front ih =>
    obtain ⟨hr, hfront⟩ := List.forall_mem_cons.1 h
    rw [List.cons_append, placeTag_of_not_isTagSegment (isTagSegment_eq_false_iff.2 hr), ih hfront,
      List.cons_append]

theorem placed_iff : Placed tag ss ts ↔ ts = placeTag tag ss := by
  constructor
  · intro h
    cases h with
    | replaced front s back hfront hs =>
      rw [placeTag_append hfront, placeTag_of_isTagSegment (isTagSegment_iff.2 hs),
        filter_isTagSegment]
    | appended _ h =>
      have happend : placeTag tag (ss ++ []) = ss ++ placeTag tag [] := placeTag_append h []
      rw [List.append_nil] at happend
      rw [happend, placeTag]
  · rintro rfl
    exact placed_placeTag tag ss

/-- The segments that do not have the tag's key are the same ones, in the same order. -/
theorem Placed.filter_eq {p : Text → Bool} (h : Placed tag ss ts)
    (hp : ∀ s, HasTagKey s → p s = false) : ts.filter p = ss.filter p := by
  have htag := hp _ (hasTagKey_tagSegment tag)
  cases h with
  | replaced front s back _ hs =>
    have hback : (back.filter fun r => ¬HasTagKey r).filter p = back.filter p := by
      rw [List.filter_filter]
      apply List.filter_congr
      intro r _
      by_cases hr : HasTagKey r
      · simp [hp r hr]
      · simp [hr]
    rw [List.filter_append, List.filter_append, List.filter_cons_of_neg (by simp [htag]),
      List.filter_cons_of_neg (by simp [hp s hs]), hback]
  | appended _ _ => simp [htag]

lemma Placed.tag_mem (h : Placed tag ss ts) : tagSegment tag ∈ ts := by
  cases h with
  | replaced _ _ _ _ _ => simp
  | appended _ _ => simp

lemma Placed.mem_of_mem (h : Placed tag ss ts) (hs : s ∈ ss) (hkey : ¬HasTagKey s) : s ∈ ts := by
  have hfilter := h.filter_eq (p := fun r => ¬HasTagKey r) fun r hr => by simp [hr]
  have hmem : s ∈ ts.filter fun r => ¬HasTagKey r := by
    rw [hfilter]
    exact List.mem_filter.2 ⟨hs, by simp [hkey]⟩
  exact (List.mem_filter.1 hmem).1

lemma segments_eq (query : Text) :
    segments query = (Text.split '&' query).filter fun s => s ≠ [] := by
  apply List.filter_congr
  intro s _
  cases s <;> rfl

variable {url : Text} {u : Url}

/-- A tagged URL is the URL with another query, in which the tag was placed among the segments that
are not empty. -/
theorem placed_setTag (hurl : Url.parse? url = some u) (hu : u.IsHttp) (htag : Tag.IsPlain tag)
    (hback : u.ReadsBack) :
    ∃ query, (setTag url tag).value = { u with query := some query }.text ∧
      Url.parse? (setTag url tag).value = some { u with query := some query } ∧
      Placed tag ((Text.split '&' (u.query.getD [])).filter fun s => s ≠ [])
        (Text.split '&' query) := by
  have htagged := Url.tagged_eq_of_isPlain hurl hu htag
  have hread : Url.parse? (u.tagged tag).text = some (u.tagged tag) :=
    hback.tagged_of_isPlain hurl hu htag
  refine ⟨tagQuery tag (u.query.getD []), ?_, ?_, ?_⟩
  · rw [value_setTag_of_some hurl hu, htagged]
  · rw [value_setTag_of_some hurl hu, hread, htagged]
  · rw [← segments_eq, split_tagQuery_of_isPlain htag]
    exact placed_iff.2 rfl

/-- Of the segments with the tag's key the first gives its place to the tag; segments whose keys only
begin with it stay. -/
theorem placed_setTag_product :
    let url := "https://u:p@www.amazon.com:8443/dp/X?&k=a%20b&tag&tags=1&&tag=old-20&=v#top".toList
    let tag := "site-20".toList
    ∃ u, Url.parse? url = some u ∧ u.IsHttp ∧ Tag.IsPlain tag ∧ u.ReadsBack ∧
      (∃ query, (setTag url tag).value = { u with query := some query }.text ∧
        Url.parse? (setTag url tag).value = some { u with query := some query } ∧
        Placed tag ((Text.split '&' (u.query.getD [])).filter fun s => s ≠ [])
          (Text.split '&' query)) ∧
      (setTag url tag).value =
        "https://u:p@www.amazon.com:8443/dp/X?k=a%20b&tag=site-20&tags=1&=v#top".toList := by
  intro url tag
  have hread : ∃ u ∈ Url.parse? url, u.IsHttp ∧ u.ReadsBack := by decide +kernel
  obtain ⟨u, hurl, hu, hback⟩ := hread
  have htag : Tag.IsPlain tag := Text.forall_of_all (by decide)
  exact ⟨u, hurl, hu, htag, hback, placed_setTag hurl hu htag hback, by decide +kernel⟩

/-- The tag that is placed last is the one that the URL has. -/
theorem setTag_setTag {first : Text} (hurl : Url.parse? url = some u) (hu : u.IsHttp)
    (hfirst : Tag.IsPlain first) (hback : u.ReadsBack) (tag : Text) :
    setTag (setTag url first).value tag = setTag url tag := by
  have hread : Url.parse? (u.tagged first).text = some (u.tagged first) :=
    hback.tagged_of_isPlain hurl hu hfirst
  have hquery : (u.tagged first).query = some (tagQuery first (u.query.getD [])) := by
    rw [Url.tagged_eq_of_isPlain hurl hu hfirst]
  have htagged : (u.tagged first).tagged tag = u.tagged tag := by
    rw [Url.tagged, hquery, Option.getD_some, tagQuery_tagQuery tag hfirst]
    rfl
  rw [value_setTag_of_some hurl hu, setTag_of_some hread hu, htagged, setTag_of_some hurl hu]

/-- The tag that a first call appends is replaced by a second call. -/
theorem setTag_setTag_product :
    let url := "https://amazon.com/dp/X?k=v".toList
    let first := (setTag url "old-20".toList).value
    ∃ u, Url.parse? url = some u ∧ u.IsHttp ∧ Tag.IsPlain "old-20".toList ∧ u.ReadsBack ∧
      first = "https://amazon.com/dp/X?k=v&tag=old-20".toList ∧
      setTag first "site-20".toList = setTag url "site-20".toList ∧
      (setTag first "site-20".toList).value = "https://amazon.com/dp/X?k=v&tag=site-20".toList := by
  intro url first
  have hread : ∃ u ∈ Url.parse? url, u.IsHttp ∧ u.ReadsBack := by decide +kernel
  obtain ⟨u, hurl, hu, hback⟩ := hread
  have hplain : Tag.IsPlain "old-20".toList := Text.forall_of_all (by decide)
  exact ⟨u, hurl, hu, hplain, hback, by decide +kernel,
    setTag_setTag hurl hu hplain hback "site-20".toList, by decide +kernel⟩

end AffiliateLinks.AmazonLink
