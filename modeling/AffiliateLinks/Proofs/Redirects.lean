import AffiliateLinks.Proofs.FormEncoding

/-!
# Links behind redirects

A redirect holds its publisher and the link that it leads to as the two pairs of its query, whatever
the link is. So a link is found again behind as many redirects as it was put behind.
-/

namespace AffiliateLinks

/-- An encoded text stands in a query as it is, and in one segment of it. -/
lemma Form.specialQuery_of_mem_encode {t : Text} {c : Char} (h : c ∈ encode t) :
    Percent.specialQuery c = false ∧ c ≠ '&' := by
  rcases mem_encode h with h | rfl | h
  · have hall : ∀ d ∈ ['"', '#', '<', '>', '\'', '&'], isPlain d = false :=
      Text.forall_of_all (by decide)
    have hne {d : Char} (hd : isPlain d = false) : c ≠ d := by
      rintro rfl
      exact Bool.false_ne_true (hd.symm.trans h)
    refine ⟨Percent.specialQuery_of_isPrintable (isPrintable_of_isPlain h) fun d hd => ?_, ?_⟩
    · exact hne (hall d (List.mem_append_left ['&'] hd))
    · exact hne (by decide)
  · decide
  · exact ⟨h.specialQuery, h.ne (by decide) (by decide) (by decide)⟩

namespace Skimlinks

open Form

variable {url id : Text} {c : Char}

/-- A publisher that some configuration was built with. -/
def IsPublisher (id : Text) : Prop :=
  ∃ amazonTag steps config,
    Config.build amazonTag steps = .ok config ∧ config.skimlinksId = some id

lemma IsPublisher.isPlain (h : IsPublisher id) : Tag.IsPlain id := by
  obtain ⟨_, _, config, hbuild, hid⟩ := h
  have hall := (Config.isChecked_of_build hbuild).skimlinksId id hid
  intro c hc
  rw [List.all_eq_true.1 hall c hc]
  rfl

def idKey : Text := "id".toList

def urlKey : Text := "url".toList

def query (url id : Text) : Text := idKey ++ '=' :: (id ++ '&' :: (urlKey ++ '=' :: encode url))

def redirectUrl : Url where
  scheme := "https".toList
  authority := some ⟨[], none, .name "go.redirectingat.com".toList, none⟩
  path := .rooted [[]]
  query := none
  fragment := none

def wrapped (url id : Text) : Url := { redirectUrl with query := some (query url id) }

lemma wrap_eq (url id : Text) : wrap url id = redirect ++ '?' :: query url id := by
  simp only [wrap, query, List.append_assoc]
  rfl

lemma text_wrapped (url id : Text) : (wrapped url id).text = wrap url id := by
  have hfront : redirectUrl.scheme ++ ':' :: redirectUrl.hierarchy = redirect := by decide +kernel
  rw [wrap_eq, ← hfront, Url.text_eq, List.append_assoc redirectUrl.scheme, List.cons_append]
  exact congrArg (fun t => redirectUrl.scheme ++ ':' :: t) (List.append_nil _)

lemma specialQuery_of_mem_query (hid : Tag.IsPlain id) (h : c ∈ query url id) :
    Percent.specialQuery c = false := by
  have hkeys : ∀ c ∈ idKey ++ '=' :: '&' :: urlKey, Percent.specialQuery c = false :=
    Text.forall_of_all (by decide)
  simp only [query, List.mem_append, List.mem_cons] at h hkeys
  rcases h with h | h | h | h | h | h | h
  · exact hkeys c (.inl h)
  · exact hkeys c (.inr (.inl h))
  · exact (hid.specialQuery h).1
  · exact hkeys c (.inr (.inr (.inl h)))
  · exact hkeys c (.inr (.inr (.inr h)))
  · exact hkeys c (.inr (.inl h))
  · exact (specialQuery_of_mem_encode h).1

/-- A redirect is read as a URL with this query and no fragment. -/
theorem parse?_wrap (url : Text) (hid : Tag.IsPlain id) :
    Url.parse? (wrap url id) = some (wrapped url id) := by
  have hread : Url.parse? redirect = some redirectUrl ∧ redirectUrl.IsHttp ∧
      redirectUrl.ReadsBack := by decide +kernel
  obtain ⟨hparse, hhttp, hback⟩ := hread
  have hquery : ∀ c ∈ query url id, Percent.specialQuery c = false := fun _ =>
    specialQuery_of_mem_query hid
  have hwrapped : wrapped url id = redirectUrl.withQuery (query url id) :=
    (Url.withQuery_eq hhttp hquery).symm
  rw [← text_wrapped, hwrapped]
  exact hback.withQuery hparse hhttp hquery

theorem pairs_query (url : Text) (hid : Tag.IsPlain id) :
    pairs (query url id) = [(idKey, id), (urlKey, url)] := by
  have hfirst : '&' ∉ idKey ++ '=' :: id := by
    rw [List.mem_append, List.mem_cons, not_or, not_or]
    exact ⟨by decide, by decide, fun h => (hid.specialQuery h).2 rfl⟩
  have hsecond : '&' ∉ urlKey ++ '=' :: encode url := by
    rw [List.mem_append, List.mem_cons, not_or, not_or]
    exact ⟨by decide, by decide, fun h => (specialQuery_of_mem_encode h).2 rfl⟩
  have hsplit : Text.split '&' (query url id) =
      [idKey ++ '=' :: id, urlKey ++ '=' :: encode url] := by
    have heq : query url id = (idKey ++ '=' :: id) ++ '&' :: (urlKey ++ '=' :: encode url) := by
      simp only [query, List.append_assoc, List.cons_append]
    rw [heq, Text.split_append_cons hfirst, Text.split_of_not_mem hsecond]
  have hpair {key : Text} (h : ∀ c ∈ key, c ≠ '+' ∧ c ≠ '%' ∧ c ≠ '=') (value : Text) :
      pair (key ++ '=' :: value) = (key, decode value) := (pair_of_key h).2 value
  have hdecode : decode id = id :=
    decode_eq_self fun c hc => ⟨hid.ne hc (by decide), hid.ne hc (by decide)⟩
  rw [pairs, hsplit]
  change [pair (idKey ++ '=' :: id), pair (urlKey ++ '=' :: encode url)] = _
  rw [hpair (Text.forall_of_all (by decide)), hpair (Text.forall_of_all (by decide)), hdecode,
    decode_encode]

/-- The link that a redirect leads to. -/
def target? (t : Text) : Option Text :=
  (Url.parse? t).bind fun u => (pairs (u.query.getD [])).lookup urlKey

/-- The link behind so many redirects. -/
def targetBehind? : Nat → Text → Option Text
  | 0, t => some t
  | n + 1, t => (target? t).bind (targetBehind? n)

/-- The link behind a redirect of each of the publishers, the first of which is outermost. -/
def wrapAll (url : Text) (ids : List Text) : Text := ids.foldr (fun id t => wrap t id) url

lemma target?_wrap (url : Text) (hid : Tag.IsPlain id) : target? (wrap url id) = some url := by
  rw [target?, parse?_wrap url hid, Option.bind_some, wrapped, Option.getD_some, pairs_query url hid]
  rfl

lemma targetBehind?_wrapAll (url : Text) {ids : List Text} (h : ∀ id ∈ ids, Tag.IsPlain id) :
    targetBehind? ids.length (wrapAll url ids) = some url := by
  induction ids with
  | nil => rfl
  | cons id ids ih =>
    obtain ⟨hid, hids⟩ := List.forall_mem_cons.1 h
    have htarget : target? (wrapAll url (id :: ids)) = some (wrapAll url ids) := target?_wrap _ hid
    rw [List.length_cons, targetBehind?, htarget, Option.bind_some, ih hids]

/-- Nothing is lost behind a redirect. The query is read as the publisher and the link; the link is
written in marks that stand for themselves, plus signs and escapes, as the corrected serializer of
forms writes it, and no other link is written so; and behind any number of redirects it is found. -/
theorem wrap_reads_back (url : Text) {ids : List Text} (h : ∀ id ∈ ids, IsPublisher id) :
    (∀ id ∈ ids, ∃ u, Url.parse? (wrap url id) = some u ∧
      pairs (u.query.getD []) = [(idKey, id), (urlKey, url)]) ∧
    IsEncoded (encode url) ∧ encode url = corrected (serialize (Utf8.encode url)) ∧
    (∀ other, encode other = encode url → other = url) ∧
    targetBehind? ids.length (wrapAll url ids) = some url := by
  have hplain : ∀ id ∈ ids, Tag.IsPlain id := fun id hid => (h id hid).isPlain
  refine ⟨fun id hid => ?_, isEncoded_encode url, (corrected_serialize url).symm,
    fun _ => encode_injective, targetBehind?_wrapAll url hplain⟩
  exact ⟨wrapped url id, parse?_wrap url (hplain id hid), pairs_query url (hplain id hid)⟩

/-- A link with an asterisk, a tilde and its escape, behind two redirects. -/
theorem wrap_reads_back_marks :
    let url := "https://é.example/a b*~%7E?q=1&r=%2A+#top".toList
    let ids := ["102394X1592384".toList, "1X2".toList]
    (∀ id ∈ ids, IsPublisher id) ∧ targetBehind? 2 (wrapAll url ids) = some url ∧
      encode url =
        "https%3A%2F%2F%C3%A9.example%2Fa+b%2A~%257E%3Fq%3D1%26r%3D%252A%2B%23top".toList := by
  intro url ids
  have hpublisher (id : Text) (hne : Text.trim id ≠ [])
      (hid : (Text.trim id).all Char.isAlphanum = true) : IsPublisher (Text.trim id) :=
    ⟨_, _, _, Config.build_skimlinksId "site-20".toList id (by decide) hne hid, rfl⟩
  have hids : ∀ id ∈ ids, IsPublisher id := by
    refine List.forall_mem_cons.2 ⟨?_, List.forall_mem_singleton.2 ?_⟩
    · exact hpublisher " 102394X1592384 ".toList (by decide) (by decide)
    · exact hpublisher "1X2".toList (by decide) (by decide)
  obtain ⟨_, _, _, _, htarget⟩ := wrap_reads_back url hids
  exact ⟨hids, htarget, by decide +kernel⟩

end Skimlinks

end AffiliateLinks
