import AffiliateLinks.Link.Monetize
import AffiliateLinks.Proofs.BuiltConfig
import AffiliateLinks.Proofs.Cutting
import AffiliateLinks.Proofs.HttpUrl

/-!
# Tagged URLs

Placing a tag among the segments of a query leaves one segment with a tag, so that placing it again
changes nothing. The segments are those that the written query is split into, for no tag that passed
its check holds a separator.
-/

namespace AffiliateLinks

namespace Tag

/-- The tag holds only the characters that a checked tag may hold, and may be empty. -/
def IsPlain (tag : Text) : Prop := ∀ c ∈ tag, (c.isAlphanum || c = '-' || c = '_') = true

lemma isPlain_of_isValid {tag : Text} (h : isValid tag = true) : IsPlain tag := by
  rw [isValid, Bool.and_eq_true, List.all_eq_true] at h
  exact h.2

namespace IsPlain

variable {tag : Text} {c : Char}

lemma bounds (h : IsPlain tag) (hc : c ∈ tag) :
    (((65 ≤ c.toNat ∧ c.toNat ≤ 90 ∨ 97 ≤ c.toNat ∧ c.toNat ≤ 122) ∨
      48 ≤ c.toNat ∧ c.toNat ≤ 57) ∨ c.toNat = 45) ∨ c.toNat = 95 := by
  have hc := h c hc
  rw [Bool.or_eq_true, Bool.or_eq_true, Ascii.isAlphanum_iff, decide_eq_true_eq,
    decide_eq_true_eq] at hc
  exact hc.imp (Or.imp_right (congrArg Char.toNat)) (congrArg Char.toNat)

lemma ne (h : IsPlain tag) (hc : c ∈ tag) {d : Char}
    (hd : d.toNat < 45 ∨ 59 < d.toNat ∧ d.toNat < 65) : c ≠ d := by
  rintro rfl
  have := h.bounds hc
  omega

/-- A plain tag stands in a query as it is, and in one segment of it. -/
lemma specialQuery (h : IsPlain tag) (hc : c ∈ tag) :
    Percent.specialQuery c = false ∧ c ≠ '&' := by
  have hbounds := h.bounds hc
  have hall : ∀ d ∈ ['"', '#', '<', '>', '\''], d.toNat < 45 ∨ 59 < d.toNat ∧ d.toNat < 65 :=
    Text.forall_of_all (by decide)
  exact ⟨Percent.specialQuery_of_isPrintable ⟨by omega, by omega⟩ fun d hd => h.ne hc (hall d hd),
    h.ne hc (by decide)⟩

end IsPlain

end Tag

namespace AmazonLink

variable {tag : Text} {s : Text} {ss : List Text}

lemma isTagSegment_tagSegment (tag : Text) : isTagSegment (tagSegment tag) = true := by
  have hcut : Text.cut? '=' (tagSegment tag) = some (tagKey, tag) :=
    Text.cut?_eq_some_iff.2 ⟨rfl, by decide⟩
  rw [isTagSegment, segmentKey, hcut]
  rfl

lemma placeTag_of_isTagSegment (h : isTagSegment s = true) :
    placeTag tag (s :: ss) = tagSegment tag :: ss.filter fun s => !isTagSegment s := by
  rw [placeTag, if_pos h]

lemma placeTag_of_not_isTagSegment (h : isTagSegment s = false) :
    placeTag tag (s :: ss) = s :: placeTag tag ss := by
  rw [placeTag, h, if_neg Bool.false_ne_true]

lemma placeTag_ne_nil (tag : Text) (ss : List Text) : placeTag tag ss ≠ [] := by
  cases ss with
  | nil => exact List.cons_ne_nil _ _
  | cons s ss =>
    rw [placeTag]
    split
    · exact List.cons_ne_nil _ _
    · exact List.cons_ne_nil _ _

lemma mem_placeTag (h : s ∈ placeTag tag ss) : s = tagSegment tag ∨ s ∈ ss := by
  induction ss with
  | nil => exact .inl (List.mem_singleton.1 h)
  | cons r ss ih =>
    cases hr : isTagSegment r with
    | true =>
      rw [placeTag_of_isTagSegment hr] at h
      rcases List.mem_cons.1 h with h | h
      · exact .inl h
      · exact .inr (List.mem_cons_of_mem _ (List.mem_filter.1 h).1)
    | false =>
      rw [placeTag_of_not_isTagSegment hr] at h
      rcases List.mem_cons.1 h with rfl | h
      · exact .inr List.mem_cons_self
      · exact (ih h).imp_right (List.mem_cons_of_mem _)

/-- The tag is placed once. -/
theorem filter_placeTag (tag : Text) (ss : List Text) :
    (placeTag tag ss).filter isTagSegment = [tagSegment tag] := by
  induction ss with
  | nil => rw [placeTag, List.filter_cons_of_pos (isTagSegment_tagSegment tag), List.filter_nil]
  | cons s ss ih =>
    cases hs : isTagSegment s with
    | true =>
      have hrest : (ss.filter fun s => !isTagSegment s).filter isTagSegment = [] := by
        rw [List.filter_filter]
        refine List.filter_eq_nil_iff.2 fun r _ => ?_
        simp
      rw [placeTag_of_isTagSegment hs, List.filter_cons_of_pos (isTagSegment_tagSegment tag), hrest]
    | false =>
      rw [placeTag_of_not_isTagSegment hs, List.filter_cons_of_neg (by simp [hs]), ih]

/-- The tag that is placed last takes the place of the one before it. -/
theorem placeTag_placeTag (tag first : Text) (ss : List Text) :
    placeTag tag (placeTag first ss) = placeTag tag ss := by
  induction ss with
  | nil => exact placeTag_of_isTagSegment (isTagSegment_tagSegment first)
  | cons s ss ih =>
    cases hs : isTagSegment s with
    | true =>
      rw [placeTag_of_isTagSegment hs, placeTag_of_isTagSegment (isTagSegment_tagSegment first),
        placeTag_of_isTagSegment hs, List.filter_filter]
      simp only [Bool.and_self]
    | false =>
      rw [placeTag_of_not_isTagSegment hs, placeTag_of_not_isTagSegment hs,
        placeTag_of_not_isTagSegment hs, ih]

lemma mem_of_mem_segments {q : Text} {c : Char} (hs : s ∈ segments q) (hc : c ∈ s) :
    c ∈ q ∧ c ≠ '&' := Text.mem_of_mem_split (List.mem_filter.1 hs).1 hc

lemma tagSegment_bounds (h : Tag.IsPlain tag) {c : Char} (hc : c ∈ tagSegment tag) :
    Percent.specialQuery c = false ∧ c ≠ '&' := by
  rw [tagSegment, List.mem_append, List.mem_cons] at hc
  rcases hc with hc | rfl | hc
  · have hall : ∀ c ∈ tagKey, Percent.specialQuery c = false ∧ c ≠ '&' :=
      Text.forall_of_all (by decide)
    exact hall c hc
  · exact ⟨by decide, by decide⟩
  · exact h.specialQuery hc

/-- A tagged query needs no more encoding than the query did. -/
lemma specialQuery_of_mem_tagQuery {q : Text} (h : Tag.IsPlain tag)
    (hq : ∀ c ∈ q, Percent.specialQuery c = false) {c : Char} (hc : c ∈ tagQuery tag q) :
    Percent.specialQuery c = false := by
  rcases Text.mem_join hc with rfl | ⟨s, hs, hc⟩
  · decide
  · rcases mem_placeTag hs with rfl | hs
    · exact (tagSegment_bounds h hc).1
    · exact hq c (mem_of_mem_segments hs hc).1

/-- The segments of a tagged query are those that the tag was placed among. -/
theorem split_tagQuery_of_isPlain (h : Tag.IsPlain tag) (q : Text) :
    Text.split '&' (tagQuery tag q) = placeTag tag (segments q) := by
  refine Text.split_join (placeTag_ne_nil _ _) fun s hs hc => ?_
  rcases mem_placeTag hs with rfl | hs
  · exact (tagSegment_bounds h hc).2 rfl
  · exact (mem_of_mem_segments hs hc).2 rfl

theorem split_tagQuery (h : Tag.isValid tag = true) (q : Text) :
    Text.split '&' (tagQuery tag q) = placeTag tag (segments q) :=
  split_tagQuery_of_isPlain (Tag.isPlain_of_isValid h) q

lemma segments_tagQuery (h : Tag.IsPlain tag) (q : Text) :
    segments (tagQuery tag q) = placeTag tag (segments q) := by
  rw [segments, split_tagQuery_of_isPlain h]
  refine List.filter_eq_self.2 fun s hs => ?_
  rcases mem_placeTag hs with rfl | hs
  · rfl
  · exact (List.mem_filter.1 hs).2

theorem tagQuery_tagQuery (tag : Text) {first : Text} (h : Tag.IsPlain first) (q : Text) :
    tagQuery tag (tagQuery first q) = tagQuery tag q := by
  rw [tagQuery, segments_tagQuery h, placeTag_placeTag, tagQuery]

end AmazonLink

namespace Url

variable {t : Text} {u : Url}

lemma isRooted_of_isHttp (h : parse? t = some u) (hu : u.IsHttp) : u.path.isRooted = true := by
  obtain ⟨rest, _, hfront, _, _⟩ := exists_of_parse? h hu
  obtain ⟨a, _, hpair⟩ := readWeb?_eq_some_iff.1 hfront
  rw [← (Prod.mk.inj hpair).2]
  rfl

lemma specialQuery_of_mem_query (h : parse? t = some u) (hu : u.IsHttp) {c : Char}
    (hc : c ∈ u.query.getD []) : Percent.specialQuery c = false := by
  cases hq : u.query with
  | none =>
    rw [hq] at hc
    cases hc
  | some q =>
    rw [hq] at hc
    rcases mem_query h hu hq hc with ⟨_, hset⟩ | hc
    · exact hset
    · exact hc.specialQuery

/-- A URL with a tag in its query. -/
def tagged (u : Url) (tag : Text) : Url := u.withQuery (AmazonLink.tagQuery tag (u.query.getD []))

lemma specialQuery_of_mem_tagged {tag : Text} (h : parse? t = some u) (hu : u.IsHttp)
    (htag : Tag.IsPlain tag) {c : Char}
    (hc : c ∈ AmazonLink.tagQuery tag (u.query.getD [])) : Percent.specialQuery c = false :=
  AmazonLink.specialQuery_of_mem_tagQuery htag (fun _ => specialQuery_of_mem_query h hu) hc

/-- Tagging a URL exchanges its query and keeps everything else. -/
lemma tagged_eq_of_isPlain {tag : Text} (h : parse? t = some u) (hu : u.IsHttp)
    (htag : Tag.IsPlain tag) :
    u.tagged tag = { u with query := some (AmazonLink.tagQuery tag (u.query.getD [])) } :=
  withQuery_eq hu fun _ => specialQuery_of_mem_tagged h hu htag

lemma tagged_eq {tag : Text} (h : parse? t = some u) (hu : u.IsHttp)
    (htag : Tag.isValid tag = true) :
    u.tagged tag = { u with query := some (AmazonLink.tagQuery tag (u.query.getD [])) } :=
  tagged_eq_of_isPlain h hu (Tag.isPlain_of_isValid htag)

lemma text_tagged {tag : Text} (h : parse? t = some u) (hu : u.IsHttp)
    (htag : Tag.IsPlain tag) : (u.tagged tag).text = u.scheme ++ ':' :: (u.hierarchy ++
      '?' :: AmazonLink.tagQuery tag (u.query.getD []) ++ fragmentText u.fragment) := by
  rw [tagged_eq_of_isPlain h hu htag, text_eq]
  rfl

lemma ReadsBack.tagged_of_isPlain {tag : Text} (hback : u.ReadsBack) (h : parse? t = some u)
    (hu : u.IsHttp) (htag : Tag.IsPlain tag) : (u.tagged tag).ReadsBack :=
  hback.withQuery h hu fun _ => specialQuery_of_mem_tagged h hu htag

end Url

namespace AmazonLink

lemma setTag_of_some {url tag : Text} {u : Url} (h : Url.parse? url = some u) (hu : u.IsHttp) :
    setTag url tag = pure (u.tagged tag).text := by
  rw [setTag, h, Option.filter_some, if_pos (Url.isRooted_of_isHttp h hu)]
  rfl

lemma value_setTag_of_some {url tag : Text} {u : Url} (h : Url.parse? url = some u)
    (hu : u.IsHttp) : (setTag url tag).value = (u.tagged tag).text := by
  rw [setTag_of_some h hu, WithLog.value_pure]

lemma value_setTag_of_none {url tag : Text} (h : Url.parse? url = none) :
    (setTag url tag).value = append url tag := by
  rw [setTag, h]
  rfl

end AmazonLink

end AffiliateLinks
