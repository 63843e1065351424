import AffiliateLinks.Proofs.SponsoredTags

/-!
# Anchors that are read whole

An anchor is a start tag with attributes of any kind, their values with quotes or without, that holds
no opening bracket besides its own. Whatever comes after it, it is read to its closing bracket, and
cut at its first link. Main statement: written back with another link, and with the mark of a
sponsored target, it is such a tag again.
-/

namespace AffiliateLinks

def Assignment.isPlain : Assignment → Bool
  | bare v => v.isPlain
  | _ => true

namespace RenderedAttribute

/-- Whatever comes after the attribute, no link is read inside of it but its own. -/
def isPlain (a : RenderedAttribute) : Bool := a.name.all isNameChar && a.assignment.isPlain

/-- The value of an `href`. A link is between quotes. -/
def link? (a : RenderedAttribute) : Option QuotedValue :=
  match a.assignment with
  | .quoted v => if a.isNamed ['h', 'r', 'e', 'f'] then some v else none
  | _ => none

variable {a a' : RenderedAttribute} {as front back : List RenderedAttribute} {v : QuotedValue}
  {t : Text}

lemma link?_eq_some_iff : a.link? = some v ↔
    a.assignment = .quoted v ∧ a.isNamed ['h', 'r', 'e', 'f'] = true := by
  rw [link?]
  cases a.assignment with
  | quoted w =>
    dsimp only
    by_cases hnamed : a.isNamed ['h', 'r', 'e', 'f'] = true
    · rw [if_pos hnamed, Option.some.injEq, Assignment.quoted.injEq]
      exact (and_iff_left hnamed).symm
    · rw [if_neg hnamed]
      exact iff_of_false (fun h => by cases h) fun h => hnamed h.2
  | _ => exact iff_of_false (fun h => by cases h) fun h => by cases h.1

lemma link?_rendered (w : WrittenAttribute) : w.rendered.link? = w.link? := by
  rw [WrittenAttribute.link?, link?, WrittenAttribute.rendered]
  cases w.value with
  | none => exact (ite_self _).symm
  | some v => rfl

lemma isNameChar_of_isPlain (h : a.isPlain = true) : ∀ c ∈ a.name, isNameChar c = true :=
  List.all_eq_true.1 (Bool.and_eq_true_iff.1 h).1

/-- A plain attribute has its value, if any, in quotes, or has a plain value without quotes. -/
lemma exists_rendered (h : a.isPlain = true) : (∃ w : WrittenAttribute, w.rendered = a) ∨
    ∃ v, a.assignment = .bare v ∧ v.isPlain = true := by
  have hname := isNameChar_of_isPlain h
  have hne := a.isName_name.ne_nil
  obtain ⟨gap, name, assignment, hgap, hblank, _⟩ := a
  cases assignment with
  | nothing => exact .inl ⟨⟨gap, name, none, hgap, hblank, hne, hname⟩, rfl⟩
  | quoted v => exact .inl ⟨⟨gap, name, some v, hgap, hblank, hne, hname⟩, rfl⟩
  | bare v => exact .inr ⟨v, rfl, (Bool.and_eq_true_iff.1 h).2⟩

/-- An attribute without a link is passed over. -/
lemma head_text (h : a.isPlain = true) (hlink : a.link? = none) (hends : a.assignment.EndsAt t)
    (ht : Follows t) : (PageState.of (a.text ++ t)).tag.head.next =
      (PageState.of t).tag.head.next.map fun x => a.text.foldr Anchor.push x := by
  rcases exists_rendered h with ⟨w, rfl⟩ | ⟨v, hv, hplain⟩
  · rw [link?_rendered] at hlink
    rw [text_rendered]
    exact PageState.head_written ht hlink
  · have hname := isNameChar_of_isPlain h
    rw [hv] at hends
    rw [text, hv, Assignment.written, List.append_assoc, List.append_assoc,
      PageState.head_named a.blank_gap a.gap_ne_nil a.isName_name.ne_nil hname
        (BareValue.start_eq_none hplain hname t), BareValue.head_written hplain hends ht,
      Option.map_map]
    congr 1
    funext x
    simp only [Function.comp_apply, List.foldr_append]

/-- An attribute is read where the rest of its tag is. -/
lemma tail_text (h : a.isPlain = true) (hends : a.assignment.EndsAt t) (ht : Follows t) {x : Text}
    (hx : (PageState.of t).tag.tail.next = some x) :
    (PageState.of (a.text ++ t)).tag.tail.next = some (a.text ++ x) := by
  rcases exists_rendered h with ⟨w, rfl⟩ | ⟨v, hv, hplain⟩
  · rw [text_rendered, PageState.tail_written w ht, hx]
    rfl
  · rw [hv] at hends
    rw [text, hv, Assignment.written, List.append_assoc, List.append_assoc,
      PageState.tail_named a.blank_gap a.isName_name.ne_nil (isNameChar_of_isPlain h),
      BareValue.tail_written hplain hends hx, Option.map_some, List.append_assoc, List.append_assoc]

/-- The link of an attribute is taken. -/
lemma head_link (h : a.isPlain = true) (hlink : a.link? = some v) {x : Text}
    (hx : (PageState.of t).tag.tail.next = some x) :
    (PageState.of (a.text ++ t)).tag.head.next =
      some ⟨a.gap ++ (a.name ++ (v.sign ++ [v.quote])), v.text, v.quote :: x⟩ := by
  rcases exists_rendered h with ⟨w, rfl⟩ | ⟨w, hw, _⟩
  · rw [link?_rendered] at hlink
    rw [text_rendered]
    exact PageState.head_link hlink hx
  · rw [(link?_eq_some_iff.1 hlink).1] at hw
    cases hw

/-- The attributes have a first link, or none. -/
lemma exists_link (as : List RenderedAttribute) : (∀ a ∈ as, a.link? = none) ∨
    ∃ front href link back, as = front ++ href :: back ∧
      (∀ a ∈ front, a.link? = none) ∧ href.link? = some link := by
  induction as with
  | nil => exact .inl fun _ ha => absurd ha List.not_mem_nil
  | cons a as ih =>
    cases ha : a.link? with
    | some w => exact .inr ⟨[], a, w, as, rfl, fun _ hb => absurd hb List.not_mem_nil, ha⟩
    | none =>
      rcases ih with h | ⟨front, href, link, back, rfl, hfront, hlink⟩
      · exact .inl (List.forall_mem_cons.2 ⟨ha, h⟩)
      · exact .inr ⟨a :: front, href, link, back, rfl, List.forall_mem_cons.2 ⟨ha, hfront⟩, hlink⟩

lemma mem_getLast?_append_cons (h : a' ∈ back.getLast?) : a' ∈ (front ++ a :: back).getLast? := by
  rw [List.getLast?_append, List.getLast?_cons, Option.mem_def.1 h]
  rfl

/-- A last attribute without quotes comes after each one with quotes. -/
lemma mem_getLast?_of_bare {w : BareValue} (ha : a.assignment = .quoted v)
    (ha' : a'.assignment = .bare w) (h : a' ∈ (front ++ a :: back).getLast?) :
    a' ∈ back.getLast? := by
  rw [List.getLast?_append, List.getLast?_cons, Option.some_or] at h
  cases hlast : back.getLast? with
  | none =>
    rw [hlast] at h
    have heq : a = a' := Option.some.inj h
    rw [← heq, ha] at ha'
    cases ha'
  | some b =>
    rw [hlast] at h
    exact h

end RenderedAttribute

open RenderedAttribute

/-- The last of the attributes ends where the text begins. -/
structure Precede (as : List RenderedAttribute) (t : Text) : Prop where
  follows : Follows t
  endsAt : ∀ a ∈ as.getLast?, a.assignment.EndsAt t

namespace Precede

variable {a : RenderedAttribute} {as : List RenderedAttribute} {t : Text}

lemma ofAttribute (as : List RenderedAttribute) (a : RenderedAttribute) (t : Text) :
    Precede as (a.text ++ t) :=
  ⟨endsAt_text .nothing a t, fun b _ => endsAt_text b.assignment a t⟩

lemma tail (h : Precede (a :: as) t) : Precede as t := by
  refine ⟨h.follows, fun b hb => h.endsAt b ?_⟩
  rw [List.getLast?_cons, Option.mem_def.1 hb]
  rfl

/-- The first attribute ends where the others begin. -/
lemma head (h : Precede (a :: as) t) : Precede [a] (textAll as ++ t) := by
  cases as with
  | nil => exact h
  | cons b as =>
    rw [textAll_cons, List.append_assoc]
    exact .ofAttribute [a] b _

/-- The attributes are read with what comes after them. -/
lemma tail_next (h : Precede as t) (hplain : ∀ a ∈ as, a.isPlain = true) {x : Text}
    (hx : (PageState.of t).tag.tail.next = some x) :
    (PageState.of (textAll as ++ t)).tag.tail.next = some (textAll as ++ x) := by
  induction as with
  | nil => exact hx
  | cons a as ih =>
    have ih := ih h.tail fun b hb => hplain b (List.mem_cons_of_mem a hb)
    rw [textAll_cons, List.append_assoc, List.append_assoc]
    exact tail_text (hplain a List.mem_cons_self) (h.head.endsAt a rfl) h.head.follows ih

/-- Attributes without a link are passed over. -/
lemma head_next (h : Precede as t) (hplain : ∀ a ∈ as, a.isPlain = true)
    (hlink : ∀ a ∈ as, a.link? = none) : (PageState.of (textAll as ++ t)).tag.head.next =
      (PageState.of t).tag.head.next.map fun x => (textAll as).foldr Anchor.push x := by
  induction as with
  | nil => exact Option.map_id'.symm
  | cons a as ih =>
    have ih := ih h.tail (fun b hb => hplain b (List.mem_cons_of_mem a hb))
      fun b hb => hlink b (List.mem_cons_of_mem a hb)
    have ha := List.mem_cons_self (a := a) (l := as)
    rw [textAll_cons, List.append_assoc,
      head_text (hplain a ha) (hlink a ha) (h.head.endsAt a rfl) h.head.follows, ih, Option.map_map]
    congr 1
    funext x
    exact List.foldr_append.symm

end Precede

/-- An anchor with plain attributes. A last value without quotes does not end with a slash and has
none right after it, for this would close the tag. -/
structure OpenTag extends RenderedTag where
  plain : ∀ a ∈ attributes, a.isPlain = true := by decide
  unopened : ∀ a ∈ attributes, '<' ∉ a.text := by decide
  closed : ∀ a ∈ attributes.getLast?, ∀ v, a.assignment = .bare v →
    v.text.getLast? ≠ some '/' ∧ (slash = true → space ≠ [])

namespace OpenTag

variable (tag : OpenTag)

lemma precede (t : Text) : Precede tag.attributes (tag.closing ++ '>' :: t) :=
  ⟨.closing tag.closing_separators t, fun a ha =>
    RenderedTag.endsAt_closing (fun v hv => (tag.closed a ha v hv).2) t⟩

lemma not_endsInSlash : ¬tag.EndsInSlash := by
  rintro ⟨_, a, ha, v, hv, hslash⟩
  exact (tag.closed a ha v hv).1 hslash

lemma bracket_ne_letter : '<' ≠ tag.letter := Ne.symm <|
  ne_of_isNameChar (isNameChar_of_toLower tag.toLower_letter (by decide)) (by decide)

lemma bracket_not_mem_rest : '<' ∉ tag.rest := by
  rw [RenderedTag.rest, List.mem_append, List.mem_append, not_or, not_or]
  refine ⟨?_, fun hc => absurd (tag.closing_separators _ hc) (by decide), by decide⟩
  intro hc
  obtain ⟨a, ha, hc⟩ := List.mem_flatMap.1 hc
  exact tag.unopened a ha hc

lemma tail_closing (t : Text) :
    (PageState.of (tag.closing ++ '>' :: t)).tag.tail.next = some (tag.closing ++ ['>']) := by
  have hbracket : (PageState.of ('>' :: t)).tag.tail.next = some ['>'] := rfl
  rw [PageState.tail_separators tag.closing_separators, hbracket]
  rfl

/-- No anchor is read where the tag has no link. -/
theorem read?_eq_none (h : ∀ a ∈ tag.attributes, a.link? = none) (t : Text) :
    Anchor.read? (tag.text ++ t) = none := by
  have hnext := (tag.precede t).head_next tag.plain h
  rw [PageState.head_closing tag.closing_separators] at hnext
  have hname : (PageState.of (tag.letter :: (tag.rest ++ t))).tag.name = none := by
    rw [PageState.name_letter tag.toLower_letter, RenderedTag.rest, List.append_assoc,
      List.append_assoc, List.singleton_append, hnext]
    rfl
  change (PageState.of (tag.letter :: (tag.rest ++ t))).anchor?.map (Anchor.push '<') = none
  rw [PageState.anchor?, hname]
  rfl

/-- The tag with the mark of a sponsored target. -/
def marked : OpenTag where
  toRenderedTag := tag.toRenderedTag.marked
  plain := List.forall_mem_append.2 ⟨tag.plain, List.forall_mem_singleton.2 rfl⟩
  unopened := by
    refine List.forall_mem_append.2 ⟨tag.unopened, List.forall_mem_singleton.2 ?_⟩
    rw [text_sponsored, List.mem_append, not_or]
    exact ⟨tag.blank_gap.not_mem (by decide), by decide⟩
  closed := by
    intro a ha v hv
    rw [RenderedTag.marked, List.getLast?_concat] at ha
    cases ha
    cases hv

end OpenTag

/-- An anchor with the attributes before and after the one that holds its first link. -/
structure LinkedTag extends OpenTag where
  front : List RenderedAttribute
  href : RenderedAttribute
  link : QuotedValue
  back : List RenderedAttribute
  attributes_eq : attributes = front ++ href :: back
  unlinked_front : ∀ a ∈ front, a.link? = none
  link?_href : href.link? = some link

/-- A tag has no link, or a first one. -/
lemma OpenTag.linked (tag : OpenTag) :
    (∀ a ∈ tag.attributes, a.link? = none) ∨ ∃ l : LinkedTag, l.toOpenTag = tag := by
  apply (exists_link tag.attributes).imp_right
  rintro ⟨front, href, link, back, heq, hfront, hlink⟩
  exact ⟨⟨tag, front, href, link, back, heq, hfront, hlink⟩, rfl⟩

def QuotedValue.withText (v : QuotedValue) (text : Text) (h : v.quote ∉ text) : QuotedValue :=
  { v with text, quote_not_mem := h }

namespace LinkedTag

variable (tag : LinkedTag)

/-- The tag cut at its link. -/
def anchor : Anchor where
  before := '<' :: tag.letter :: (textAll tag.front ++ (tag.href.gap ++ (tag.href.name ++
    (tag.link.sign ++ [tag.link.quote]))))
  link := tag.link.text
  after := tag.link.quote :: (textAll tag.back ++ (tag.closing ++ ['>']))

lemma assignment_href : tag.href.assignment = .quoted tag.link :=
  (link?_eq_some_iff.1 tag.link?_href).1

lemma plain_attributes : (∀ a ∈ tag.front, a.isPlain = true) ∧ tag.href.isPlain = true ∧
    ∀ a ∈ tag.back, a.isPlain = true := by
  have hplain := tag.plain
  rwa [tag.attributes_eq, List.forall_mem_append, List.forall_mem_cons] at hplain

lemma text_href : tag.href.text =
    tag.href.gap ++ (tag.href.name ++ (tag.link.sign ++ tag.link.quoted)) := by
  rw [RenderedAttribute.text, tag.assignment_href]
  rfl

lemma bracket_not_mem_href : '<' ∉ tag.href.text := by
  apply tag.unopened
  rw [tag.attributes_eq]
  exact List.mem_append_right _ List.mem_cons_self

lemma bracket_not_mem_link : '<' ∉ tag.link.text := by
  intro hm
  apply tag.bracket_not_mem_href
  simp only [text_href, QuotedValue.quoted, List.mem_append, List.mem_cons]
  exact .inr (.inr (.inr (.inl (.inr hm))))

lemma rest_eq : tag.rest =
    textAll tag.front ++ (tag.href.text ++ (textAll tag.back ++ (tag.closing ++ ['>']))) := by
  rw [RenderedTag.rest, tag.attributes_eq, textAll_append, textAll_cons, List.append_assoc,
    List.append_assoc]

lemma text_anchor : tag.anchor.text = tag.text := by
  rw [RenderedTag.text, rest_eq, text_href]
  simp only [Anchor.text, anchor, QuotedValue.quoted, List.append_assoc, List.cons_append,
    List.nil_append]

lemma precede_back (t : Text) : Precede tag.back (tag.closing ++ '>' :: t) := by
  refine ⟨.closing tag.closing_separators t, fun a ha => (tag.precede t).endsAt a ?_⟩
  rw [tag.attributes_eq]
  exact mem_getLast?_append_cons ha

/-- The tag is read as it was written, whatever comes after it. -/
theorem read?_append (t : Text) : Anchor.read? (tag.text ++ t) = some tag.anchor := by
  obtain ⟨hplain, hplain_href, hplain_back⟩ := tag.plain_attributes
  have hback : (PageState.of (textAll tag.back ++ (tag.closing ++ '>' :: t))).tag.tail.next = _ :=
    (tag.precede_back t).tail_next hplain_back (tag.tail_closing t)
  have hhref := head_link hplain_href tag.link?_href hback
  have hfront := (Precede.ofAttribute tag.front tag.href
    (textAll tag.back ++ (tag.closing ++ '>' :: t))).head_next hplain tag.unlinked_front
  have hnext : (PageState.of (tag.rest ++ t)).tag.head.next = some
      ⟨textAll tag.front ++ (tag.href.gap ++ (tag.href.name ++ (tag.link.sign ++ [tag.link.quote]))),
        tag.link.text, tag.anchor.after⟩ := by
    rw [rest_eq]
    simp only [List.append_assoc, List.singleton_append]
    exact hfront.trans (by rw [hhref, Option.map_some, Anchor.foldr_push]; rfl)
  have hname := (PageState.name_letter tag.toLower_letter (tag.rest ++ t)).trans
    (congrArg (Option.map (Anchor.push tag.letter)) hnext)
  let x : Anchor := { tag.anchor with before := tag.anchor.before.tail }
  have hx : x.text = tag.letter :: tag.rest := (List.cons.inj tag.text_anchor).2
  have hopen : x.text.contains '<' = false := by
    rw [hx, List.contains_eq_mem, decide_eq_false_iff_not, List.mem_cons, not_or]
    exact ⟨tag.bracket_ne_letter, tag.bracket_not_mem_rest⟩
  change (PageState.of (tag.letter :: (tag.rest ++ t))).anchor?.map (Anchor.push '<') = _
  rw [PageState.anchor?, hname]
  change (if x.text.contains '<' then _ else some x).map (Anchor.push '<') = _
  rw [hopen]
  rfl

/-- The tag with another link. -/
def withLink (link : Text) (hquote : tag.link.quote ∉ link) (hopen : '<' ∉ link) : LinkedTag where
  letter := tag.letter
  attributes := tag.front ++ tag.href.assign (.quoted (tag.link.withText link hquote)) :: tag.back
  space := tag.space
  slash := tag.slash
  toLower_letter := tag.toLower_letter
  blank_space := tag.blank_space
  plain := by
    obtain ⟨hfront, hhref, hback⟩ := tag.plain_attributes
    refine List.forall_mem_append.2 ⟨hfront, List.forall_mem_cons.2 ⟨?_, hback⟩⟩
    exact Bool.and_eq_true_iff.2 ⟨(Bool.and_eq_true_iff.1 hhref).1, rfl⟩
  unopened := by
    have hunopened := tag.unopened
    rw [tag.attributes_eq, List.forall_mem_append, List.forall_mem_cons, text_href] at hunopened
    rw [List.forall_mem_append, List.forall_mem_cons]
    refine ⟨hunopened.1, ?_, hunopened.2.2⟩
    have hhref := hunopened.2.1
    simp only [QuotedValue.quoted, List.mem_append, List.mem_cons, not_or] at hhref
    obtain ⟨hgap, hname, hsign, ⟨hleft, _⟩, hright⟩ := hhref
    change '<' ∉ tag.href.gap ++ (tag.href.name ++ (tag.link.sign ++
      (tag.link.quote :: link ++ [tag.link.quote])))
    simp only [List.mem_append, List.mem_cons, not_or]
    exact ⟨hgap, hname, hsign, ⟨hleft, hopen⟩, hright⟩
  closed := fun a ha v hv => by
    refine tag.closed a ?_ v hv
    rw [tag.attributes_eq]
    exact mem_getLast?_append_cons (mem_getLast?_of_bare rfl hv ha)
  front := tag.front
  href := tag.href.assign (.quoted (tag.link.withText link hquote))
  link := tag.link.withText link hquote
  back := tag.back
  attributes_eq := rfl
  unlinked_front := tag.unlinked_front
  link?_href := link?_eq_some_iff.2 ⟨rfl, (link?_eq_some_iff.1 tag.link?_href).2⟩

/-- The tag with the mark of a sponsored target. -/
def marked : LinkedTag where
  toOpenTag := tag.toOpenTag.marked
  front := tag.front
  href := tag.href
  link := tag.link
  back := tag.back ++ [.sponsored tag.gap tag.blank_gap]
  attributes_eq := by
    change tag.attributes ++ _ = _
    rw [tag.attributes_eq, List.append_assoc, List.cons_append]
  unlinked_front := tag.unlinked_front
  link?_href := tag.link?_href

lemma hasRel_marked : tag.marked.hasRel = true := by
  change (tag.attributes ++ _).any _ = true
  rw [List.any_append]
  exact Bool.or_eq_true_iff.2 (.inr rfl)

variable {tag} {link : Text}

lemma text_withLink (hquote : tag.link.quote ∉ link) (hopen : '<' ∉ link) :
    (tag.withLink link hquote hopen).text = tag.anchor.withLink link :=
  (text_anchor _).symm

lemma hasRel_withLink (hquote : tag.link.quote ∉ link) (hopen : '<' ∉ link) :
    (tag.withLink link hquote hopen).hasRel = tag.hasRel := by
  rw [RenderedTag.hasRel, RenderedTag.hasRel, attributes_eq, attributes_eq, List.any_append,
    List.any_append, List.any_cons, List.any_cons]
  rfl

/-- What is written for the tag with another link is such a tag again. -/
theorem rewritten_anchor {link : Link} (hquote : tag.link.quote ∉ link.monetized)
    (hopen : '<' ∉ link.monetized) :
    let tag' := tag.withLink link.monetized hquote hopen
    tag.anchor.rewritten link =
      (if link.method.isMonetized && !tag.hasRel then tag'.marked else tag').text := by
  intro tag'
  rw [RenderedTag.text_rewritten (text_withLink hquote hopen).symm tag'.not_endsInSlash,
    hasRel_withLink hquote hopen]
  split
  · rfl
  · rfl

end LinkedTag

end AffiliateLinks
