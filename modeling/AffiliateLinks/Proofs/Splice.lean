import AffiliateLinks.Markup.Monetize
import AffiliateLinks.Proofs.Numerals
import AffiliateLinks.Proofs.AnchorReading

/-!
# Monetizing splices a page

A page is cut into tags and the gaps before them. Monetizing keeps the gaps, exchanges the link of
each tag that earns, marks such a tag as sponsored unless it says how its target relates to the page,
and keeps every other tag. Each link is counted under its method once.
-/

namespace AffiliateLinks

namespace Tally

lemma count_foldl_record (ms : List Method) (t : Tally) (m : Method) :
    (ms.foldl record t).count m = t.count m + ms.count m := by
  induction ms generalizing t with
  | nil => rfl
  | cons n ms ih =>
    rw [List.foldl_cons, ih, count_record, List.count_cons]
    by_cases h : m = n
    · subst h
      simp only [if_true, beq_self_eq_true]
      omega
    · have hn : (n == m) = false := by simpa using Ne.symm h
      simp only [h, hn, if_false, Bool.false_eq_true, Nat.add_zero]

theorem count_ofMethods (ms : List Method) (m : Method) : (ofMethods ms).count m = ms.count m := by
  have hzero : zero.count m = 0 := by cases m <;> rfl
  rw [ofMethods, count_foldl_record, hzero, Nat.zero_add]

lemma total_foldl_record (ms : List Method) (t : Tally) :
    (ms.foldl record t).total = t.total + ms.length := by
  induction ms generalizing t with
  | nil => rfl
  | cons n ms ih =>
    rw [List.foldl_cons, ih, total_record, List.length_cons]
    omega

theorem total_ofMethods (ms : List Method) : (ofMethods ms).total = ms.length := by
  rw [ofMethods, total_foldl_record]
  exact Nat.zero_add _

end Tally

namespace Link

variable (value : Text) (config : Config) (brand : Option Text)

@[simp] lemma original_ofMarkup : (ofMarkup value config brand).value.original = value := rfl

@[simp] lemma method_ofMarkup : (ofMarkup value config brand).value.method =
    (Classification.ofUrl (Ampersand.decode value) config).method := rfl

lemma monetized_ofMarkup_of_not_isMonetized
    (h : (ofMarkup value config brand).value.method.isMonetized = false) :
    (ofMarkup value config brand).value.monetized = value := by
  change (if !(Classification.ofUrl (Ampersand.decode value) config).method.isMonetized then value
    else _) = value
  rw [method_ofMarkup] at h
  rw [h, Bool.not_false, if_pos rfl]

lemma monetized_ofMarkup_of_isMonetized
    (h : (ofMarkup value config brand).value.method.isMonetized = true) :
    (ofMarkup value config brand).value.monetized =
      if Ampersand.decode value ≠ value then
        Ampersand.encode (ofUrl (Ampersand.decode value) config brand).value.monetized
      else (ofUrl (Ampersand.decode value) config brand).value.monetized := by
  change (if !(ofMarkup value config brand).value.method.isMonetized then value else _) = _
  rw [h, Bool.not_true, if_neg Bool.false_ne_true]

end Link

namespace Anchor

variable {a : Anchor} {link : Link}

lemma rewritten_of_not_isMonetized (h : link.method.isMonetized = false) :
    a.rewritten link = a.withLink link.monetized := by
  simp only [rewritten, h, Bool.false_and, Bool.false_eq_true, if_false]

lemma rewritten_of_hasRel (h : Tag.hasRel (a.withLink link.monetized) = true) :
    a.rewritten link = a.withLink link.monetized := by
  simp only [rewritten, h, Bool.not_true, Bool.and_false, Bool.false_eq_true, if_false]

lemma rewritten_of_not_hasRel (hm : link.method.isMonetized = true)
    (h : Tag.hasRel (a.withLink link.monetized) = false) :
    a.rewritten link = Tag.addSponsoredRel (a.withLink link.monetized) := by
  simp only [rewritten, hm, h, Bool.not_false, Bool.and_true, if_true]

end Anchor

/-- A tag of a page and the text before it, the tag's link, and what is written for the tag. -/
structure Splice where
  gap : Text
  tag : Text
  link : Link
  written : Text

namespace Splice

/-- The tag is an anchor whose `href` value, between two quotes, is the link. The tag is written with
the new link in place of this occurrence, and marked as sponsored where it does not say how its
target relates to the page; a tag whose link does not earn is written as it is. -/
structure IsFaithful (config : Config) (s : Splice) : Prop where
  closed : s.tag.getLast? = some '>'
  classified : s.link.method =
    (Classification.ofUrl (Ampersand.decode s.link.original) config).method
  spliced : ∃ letter attributes quote rest,
    (letter = 'a' ∨ letter = 'A') ∧ (quote = '"' ∨ quote = '\'') ∧ quote ∉ s.link.original ∧
    Href.Separated attributes ∧
    s.tag = '<' :: letter :: attributes ++ quote :: s.link.original ++ quote :: rest ∧
    (s.link.method = .passthrough ∨ s.link.method = .skipped → s.written = s.tag) ∧
    (s.link.method = .amazon ∨ s.link.method = .skimlinks →
      let tag := '<' :: letter :: attributes ++ quote :: s.link.monetized ++ quote :: rest
      (Tag.hasRel tag = true → s.written = tag) ∧
      (Tag.hasRel tag = false → s.written = Tag.addSponsoredRel tag))

/-- The page that the tags and gaps make up, as they were read. -/
def source (splices : List Splice) : Text := splices.flatMap fun s => s.gap ++ s.tag

/-- The page that the tags and gaps make up, as they are written. -/
def output (splices : List Splice) : Text := splices.flatMap fun s => s.gap ++ s.written

lemma eq_a_of_toLower {c : Char} (h : c.toLower = 'a') : c = 'a' ∨ c = 'A' := by
  rcases (Ascii.toLower_eq_iff (by decide)).1 h with h | h
  · exact .inl h
  · exact .inr (Ascii.eq_of_toNat_eq (Nat.add_right_cancel h))

/-- What becomes of an anchor of a page. -/
def ofAnchor (a : Anchor) (config : Config) (brand : Option Text) : Splice :=
  let link := (Link.ofMarkup a.link config brand).value
  ⟨[], a.text, link, a.rewritten link⟩

lemma isFaithful_ofAnchor {a : Anchor} {t : Text} (h : a.Reads Href.InAnchor t) (config : Config)
    (brand : Option Text) : (ofAnchor a config brand).IsFaithful config := by
  obtain ⟨_, q, ⟨_, ⟨letter, attributes, hl, hs, rfl⟩, rfl⟩, hq, hb, ha, hn⟩ := h.quoted
  obtain ⟨rest, hrest⟩ := List.head?_eq_some_iff.1 ha
  have hwith (link : Text) : a.withLink link =
      '<' :: letter :: attributes ++ q :: link ++ q :: rest := by
    simp only [Anchor.withLink, hb, hrest, List.append_assoc, List.cons_append, List.nil_append]
  have htext : a.text = a.withLink a.link := rfl
  refine ⟨?_, rfl, letter, attributes, q, rest, eq_a_of_toLower hl, hq, hn, hs, ?_, ?_, ?_⟩
  · change a.text.getLast? = some '>'
    rw [Anchor.text, List.getLast?_append, h.closed, Option.some_or]
  · exact htext.trans (hwith a.link)
  · intro hm
    have hm' : (Link.ofMarkup a.link config brand).value.method.isMonetized = false :=
      Method.isMonetized_eq_false_iff.2 hm
    change Anchor.rewritten a _ = a.withLink a.link
    rw [Anchor.rewritten_of_not_isMonetized hm', Link.monetized_ofMarkup_of_not_isMonetized _ _ _ hm']
  · intro hm
    have hm' : (Link.ofMarkup a.link config brand).value.method.isMonetized = true :=
      Method.isMonetized_iff.2 hm
    dsimp only
    rw [← hwith]
    exact ⟨Anchor.rewritten_of_hasRel, Anchor.rewritten_of_not_hasRel hm'⟩

/-- Puts a character in front of the first gap, or of the rest where there is no tag. -/
def pushGap (c : Char) : List Splice × Text → List Splice × Text
  | ([], rest) => ([], c :: rest)
  | (s :: ss, rest) => ({ s with gap := c :: s.gap } :: ss, rest)

/-- The tags of a page with the gaps before them, and what follows the last tag. -/
def ofPieces (config : Config) (brand : Option Text) : List Piece → List Splice × Text
  | [] => ([], [])
  | .char c :: ps => pushGap c (ofPieces config brand ps)
  | .anchor a :: ps =>
    let (ss, rest) := ofPieces config brand ps
    (ofAnchor a config brand :: ss, rest)

lemma source_pushGap (c : Char) (p : List Splice × Text) :
    source (pushGap c p).1 ++ (pushGap c p).2 = c :: (source p.1 ++ p.2) := by
  obtain ⟨_ | ⟨s, ss⟩, rest⟩ := p
  · rfl
  · simp only [pushGap, source, List.flatMap_cons, List.cons_append]

lemma output_pushGap (c : Char) (p : List Splice × Text) :
    output (pushGap c p).1 ++ (pushGap c p).2 = c :: (output p.1 ++ p.2) := by
  obtain ⟨_ | ⟨s, ss⟩, rest⟩ := p
  · rfl
  · simp only [pushGap, output, List.flatMap_cons, List.cons_append]

lemma map_link_pushGap (c : Char) (p : List Splice × Text) :
    (pushGap c p).1.map link = p.1.map link := by
  obtain ⟨_ | ⟨s, ss⟩, rest⟩ := p
  · rfl
  · rfl

lemma isFaithful_pushGap {config : Config} {p : List Splice × Text}
    (h : ∀ s ∈ p.1, s.IsFaithful config) (c : Char) : ∀ s ∈ (pushGap c p).1, s.IsFaithful config := by
  obtain ⟨_ | ⟨s, ss⟩, rest⟩ := p
  · exact h
  · intro s' hs'
    rcases List.mem_cons.1 hs' with rfl | hs'
    · have hs := h s List.mem_cons_self
      exact ⟨hs.closed, hs.classified, hs.spliced⟩
    · exact h s' (List.mem_cons_of_mem _ hs')

variable (config : Config) (brand : Option Text)

lemma source_ofPieces (ps : List Piece) :
    source (ofPieces config brand ps).1 ++ (ofPieces config brand ps).2 =
      ps.flatMap Piece.text := by
  induction ps with
  | nil => rfl
  | cons p ps ih =>
    cases p with
    | char c =>
      rw [ofPieces, source_pushGap, ih, List.flatMap_cons, Piece.text, List.singleton_append]
    | anchor a =>
      rw [List.flatMap_cons, ← ih, Piece.text, ← List.append_assoc]
      rfl

lemma output_ofPieces (ps : List Piece) :
    output (ofPieces config brand ps).1 ++ (ofPieces config brand ps).2 =
      (MonetizedPage.ofPieces config brand ps).value.html := by
  induction ps with
  | nil => rfl
  | cons p ps ih =>
    cases p with
    | char c =>
      rw [ofPieces, output_pushGap, ih]
      rfl
    | anchor a =>
      change _ = Anchor.rewritten a _ ++ (MonetizedPage.ofPieces config brand ps).value.html
      rw [← ih, ← List.append_assoc]
      rfl

lemma map_link_ofPieces (ps : List Piece) :
    (ofPieces config brand ps).1.map link =
      (MonetizedPage.ofPieces config brand ps).value.links := by
  induction ps with
  | nil => rfl
  | cons p ps ih =>
    cases p with
    | char c =>
      rw [ofPieces, map_link_pushGap, ih]
      rfl
    | anchor a =>
      change _ :: (ofPieces config brand ps).1.map link = _
      rw [ih]
      rfl

lemma isFaithful_ofPieces (html : Text) :
    ∀ s ∈ (ofPieces config brand (Page.pieces html)).1, s.IsFaithful config := by
  induction html using Page.induction with
  | nil =>
    intro s hs
    cases hs
  | char c t h ih =>
    rw [Page.pieces_char h, ofPieces]
    exact isFaithful_pushGap ih c
  | anchor a t h ih =>
    rw [Page.pieces_anchor h]
    intro s hs
    rcases List.mem_cons.1 hs with rfl | hs
    · exact isFaithful_ofAnchor (Anchor.reads_of_read? h) config brand
    · exact ih s hs

end Splice

namespace MonetizedPage

/-- A monetized page is the page with its tags exchanged in their places. Its links are those of the
tags, in order, and its tally counts each of them under its method. -/
theorem ofHtml_splices (html : Text) (config : Config) (brand : Option Text) :
    let page := (ofHtml html config brand).value
    ∃ (splices : List Splice) (rest : Text),
      html = Splice.source splices ++ rest ∧
      page.html = Splice.output splices ++ rest ∧
      page.links = splices.map Splice.link ∧
      (∀ s ∈ splices, s.IsFaithful config) ∧
      (∀ m, page.tally.count m = page.links.countP fun l => l.method = m) ∧
      page.tally.total = page.links.length := by
  intro page
  let ps := Page.pieces html
  refine ⟨(Splice.ofPieces config brand ps).1, (Splice.ofPieces config brand ps).2, ?_, ?_, ?_,
    Splice.isFaithful_ofPieces config brand html, fun m => ?_, ?_⟩
  · rw [Splice.source_ofPieces, Page.flatMap_text_pieces]
  · exact (Splice.output_ofPieces config brand ps).symm
  · exact (Splice.map_link_ofPieces config brand ps).symm
  · rw [tally, Tally.count_ofMethods, List.count, List.countP_map]
    refine List.countP_congr fun l _ => ?_
    simp only [Function.comp_apply, beq_iff_eq, decide_eq_true_eq]
  · rw [tally, Tally.total_ofMethods, List.length_map]

end MonetizedPage

end AffiliateLinks
