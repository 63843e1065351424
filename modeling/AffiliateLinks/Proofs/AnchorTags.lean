import AffiliateLinks.Proofs.Documents
import AffiliateLinks.Proofs.PlainReading
import AffiliateLinks.Proofs.SponsoredTags

/-!
# Anchors as they are written

An anchor is a start tag with one `href`, whose value is its link. It is read as it was written when
no value holds an opening bracket. Otherwise it is read again up to its first closing bracket, where
the link has to be the first candidate. Main statement: an anchor that is read as written is written
back with its new link, and marked as sponsored before its own closing bracket.
-/

namespace AffiliateLinks

/-- An anchor with the attributes before and after the one that holds its link. -/
structure AnchorTag where
  letter : Char := 'a'
  front : List WrittenAttribute := []
  href : WrittenAttribute
  link : QuotedValue
  back : List WrittenAttribute := []
  toLower_letter : letter.toLower = 'a' := by decide
  named_href : href.isNamed ['h', 'r', 'e', 'f'] = true := by decide
  value_href : href.value = some link := by rfl
  unnamed_front : ∀ a ∈ front, a.isNamed ['h', 'r', 'e', 'f'] = false := by decide
  unnamed_back : ∀ a ∈ back, a.isNamed ['h', 'r', 'e', 'f'] = false := by decide

namespace AnchorTag

variable (tag : AnchorTag)

def startTag : StartTag where
  name := [tag.letter]
  attributes := tag.front ++ tag.href :: tag.back
  name_ne_nil := List.cons_ne_nil _ _
  name_chars := by
    intro c hc
    rw [List.mem_singleton.1 hc]
    exact isNameChar_of_toLower tag.toLower_letter (by decide)

/-- The values of all attributes. -/
def values : List QuotedValue := tag.startTag.attributes.filterMap WrittenAttribute.value

/-- What stands between the name of the tag and the name of its `href`. -/
def lead : Text := writtenAll tag.front ++ tag.href.gap

/-- The tag from the name of its `href` on. -/
def named : Text := tag.href.name ++ (tag.link.written ++ (writtenAll tag.back ++ ['>']))

/-- The same, cut at the link. -/
def namedAnchor : Anchor where
  before := tag.href.name ++ (tag.link.sign ++ [tag.link.quote])
  link := tag.link.text
  after := tag.link.quote :: (writtenAll tag.back ++ ['>'])

/-- The tag cut at its link. -/
def anchor : Anchor :=
  ⟨'<' :: tag.letter :: (tag.lead ++ tag.namedAnchor.before), tag.namedAnchor.link,
    tag.namedAnchor.after⟩

/-- The anchor with another link and, if asked for, the mark of a sponsored target. -/
def written (link : Text) (sponsored : Bool) : Text :=
  '<' :: tag.letter :: (tag.lead ++ (tag.href.name ++ (tag.link.sign ++ tag.link.quote :: (link ++
    tag.link.quote :: (writtenAll tag.back ++ ((if sponsored then Tag.sponsoredRel else []) ++ ['>']))))))

def hasRel : Bool := tag.startTag.attributes.any fun a => a.isNamed "rel".toList

/-- No other `href` is taken for the link where quotes do not count. The white space right after the
name of the tag comes last among the candidates. -/
structure FitsPlain : Prop where
  values : ∀ v ∈ tag.values, '>' ∉ v.text
  link : '<' ∉ tag.link.text
  first : ∀ l b r, tag.startTag.rest = l ++ b :: r → l ≠ [] → Text.isBlank b = true →
    Href.Plain r → 1 < tag.lead.length ∧ tag.lead.length ≤ l.length + 1

def IsRead : Prop := (∀ v ∈ tag.values, '<' ∉ v.text) ∨ tag.FitsPlain

end AnchorTag

lemma cutAtLink_append {ending : Text} {front : List WrittenAttribute}
    (h : ∀ a ∈ front, a.isNamed ['h', 'r', 'e', 'f'] = false) (as : List WrittenAttribute) :
    cutAtLink ending (front ++ as) =
      (cutAtLink ending as).map fun x => ⟨writtenAll front ++ x.before, x.link, x.after⟩ := by
  induction front with
  | nil => exact Option.map_id'.symm
  | cons a front ih =>
    have ha : a.link? = none := by
      rw [WrittenAttribute.link?, h a List.mem_cons_self, if_neg Bool.false_ne_true]
    rw [List.cons_append, cutAtLink, ha]
    change Option.map _ (cutAtLink ending (front ++ as)) = _
    rw [ih fun b hb => h b (List.mem_cons_of_mem a hb), Option.map_map]
    congr 1
    funext x
    simp only [Function.comp_apply, writtenAll_cons, List.append_assoc]

namespace AnchorTag

variable (tag : AnchorTag)

lemma isAnchor_startTag : tag.startTag.isAnchor = true := by
  rw [StartTag.isAnchor, startTag, Text.eqIgnoringCase, Text.lower, List.map_singleton,
    tag.toLower_letter]
  decide

lemma rest_startTag : tag.startTag.rest = tag.lead ++ tag.named := by
  have hhref : tag.href.assigned = tag.link.written := by
    rw [WrittenAttribute.assigned, tag.value_href]
    rfl
  simp only [StartTag.rest, startTag, writtenAll, List.flatMap_append, List.flatMap_cons, lead, named,
    WrittenAttribute.written, hhref, List.append_assoc, List.nil_append]

lemma named?_startTag : tag.startTag.named? = some ⟨tag.letter :: (tag.lead ++
    tag.namedAnchor.before), tag.namedAnchor.link, tag.namedAnchor.after⟩ := by
  have hlink : tag.href.link? = some tag.link := by
    rw [WrittenAttribute.link?, tag.named_href, if_pos rfl, tag.value_href]
  rw [StartTag.named?, startTag, cutAtLink_append tag.unnamed_front, cutAtLink, hlink]
  simp only [Option.map_some, lead, namedAnchor, List.append_assoc, List.cons_append,
    List.nil_append]

lemma text_anchor : tag.anchor.text = tag.startTag.text := by
  rw [StartTag.text, rest_startTag]
  simp only [Anchor.text, anchor, namedAnchor, named, startTag, QuotedValue.written, QuotedValue.quoted,
    List.append_assoc, List.cons_append, List.nil_append]

lemma lead_eq_cons : ∃ b lead, tag.lead = b :: lead ∧ Text.isBlank b = true := by
  have hgap (a : WrittenAttribute) (t : Text) :
      ∃ b r, a.gap ++ t = b :: r ∧ Text.isBlank b = true := by
    obtain ⟨b, gap, hgap⟩ := List.exists_cons_of_ne_nil a.gap_ne_nil
    exact ⟨b, gap ++ t, congrArg (· ++ t) hgap, a.blank_gap b (hgap ▸ List.mem_cons_self)⟩
  rw [lead]
  cases tag.front with
  | nil =>
    obtain ⟨b, r, hr, hb⟩ := hgap tag.href []
    exact ⟨b, r, (List.append_nil _).symm.trans hr, hb⟩
  | cons a front =>
    rw [writtenAll_cons, WrittenAttribute.written, List.append_assoc, List.append_assoc]
    exact hgap a _

lemma lead_eq_concat : ∃ l b, tag.lead = l ++ [b] ∧ Text.isBlank b = true := by
  have hgap := List.dropLast_concat_getLast tag.href.gap_ne_nil
  refine ⟨writtenAll tag.front ++ tag.href.gap.dropLast, _, ?_,
    tag.href.blank_gap _ (List.getLast_mem tag.href.gap_ne_nil)⟩
  rw [List.append_assoc, hgap, lead]

lemma lower_name_href : Text.lower tag.href.name = ['h', 'r', 'e', 'f'] :=
  (beq_iff_eq.1 tag.named_href).trans (by decide)

lemma named_name_sign : Href.Named ['h', 'r', 'e', 'f'] (tag.href.name ++ tag.link.sign) :=
  ⟨_, _, tag.lower_name_href, ⟨_, _, tag.link.blank_left, tag.link.blank_right, rfl⟩, rfl⟩

variable {tag}

lemma values_eq (tag : AnchorTag) : tag.values = tag.front.filterMap WrittenAttribute.value ++
    tag.link :: tag.back.filterMap WrittenAttribute.value := by
  rw [values, startTag, List.filterMap_append, List.filterMap_cons, tag.value_href]

/-- The closing bracket is the only one exactly if no value holds another. -/
lemma forall_values_iff : (∀ v ∈ tag.values, '>' ∉ v.text) ↔
    '>' ∉ tag.lead ∧ '>' ∉ tag.link.text ∧ '>' ∉ writtenAll tag.back := by
  have hgap : '>' ∉ tag.href.gap := tag.href.blank_gap.not_mem (by decide)
  rw [lead, List.mem_append, or_iff_left hgap, mem_writtenAll_iff (by decide) (by decide) (by decide),
    mem_writtenAll_iff (by decide) (by decide) (by decide), values_eq, List.forall_mem_append,
    List.forall_mem_cons]
  simp only [not_exists, not_and]

lemma start_named (h : tag.FitsPlain) :
    (PageState.of tag.named).plain.link.start = some tag.namedAnchor := by
  obtain ⟨_, hlink, hback⟩ := forall_values_iff.1 h.values
  have hallowed : ∀ c ∈ tag.link.text, (fun c => c ≠ '<' && c ≠ '>') c = true := by
    intro c hc
    have hc₁ : c ≠ '<' := fun he => h.link (he ▸ hc)
    have hc₂ : c ≠ '>' := fun he => hlink (he ▸ hc)
    simp only [decide_eq_true hc₁, decide_eq_true hc₂, Bool.and_self]
  have hstart := PageState.runs_plain.start tag.lower_name_href tag.link hallowed
    (writtenAll tag.back ++ ['>'])
  rw [PageState.plain_tail hback] at hstart
  exact hstart

lemma plain_named (h : tag.FitsPlain) : Href.Plain tag.named :=
  PageState.start_ne_none_iff.1 (by rw [start_named h]; exact Option.some_ne_none _)

/-- What is known when the tag is read as it was written after its first white space. -/
lemma brackets_of_gap {b : Char} {lead : Text} (hlead : tag.lead = b :: lead)
    (hb : Text.isBlank b = true)
    (h : ((PageState.of (lead ++ tag.named)).plain.skip <|>
      (PageState.of (lead ++ tag.named)).plain.link.start) =
        some ⟨lead ++ tag.namedAnchor.before, tag.namedAnchor.link, tag.namedAnchor.after⟩) :
    (∀ v ∈ tag.values, '>' ∉ v.text) ∧ '<' ∉ tag.link.text := by
  obtain ⟨hbefore, hlink, q, y, hafter, hy⟩ := PageState.brackets_of_gap h
  have hne : '>' ≠ b := by
    rintro rfl
    exact absurd hb (by decide)
  have hback : writtenAll tag.back = y :=
    List.append_cancel_right (List.cons.inj hafter).2
  refine ⟨forall_values_iff.2 ⟨?_, fun hm => (hlink _ hm).2 rfl, hback ▸ hy⟩,
    fun hm => (hlink _ hm).1 rfl⟩
  rw [hlead, List.mem_cons, not_or]
  exact ⟨hne, fun hm => hbefore (List.mem_append_left _ hm)⟩

lemma not_mem_of_rest (h : ∀ v ∈ tag.values, '>' ∉ v.text) {b c : Char} {l r : Text}
    (hrest : tag.startTag.rest = b :: l ++ c :: r) (hr : Href.Plain r) : '>' ≠ b ∧ '>' ∉ l := by
  have hne : r ≠ [] := by
    obtain ⟨front, q, link, rest, _, _, _, _, _, _, rfl⟩ := hr
    exact List.append_ne_nil_of_right_ne_nil _ (List.cons_ne_nil _ _)
  have hattributes : '>' ∉ writtenAll tag.startTag.attributes := by
    rw [mem_writtenAll_iff (by decide) (by decide) (by decide)]
    rintro ⟨v, hv, hm⟩
    exact h v hv hm
  have hsplit : writtenAll tag.startTag.attributes = b :: l ++ c :: r.dropLast := by
    rw [← List.dropLast_cons_of_ne_nil hne, ← List.dropLast_append_of_ne_nil (List.cons_ne_nil c r),
      ← hrest]
    exact (List.dropLast_concat).symm
  rw [hsplit, List.mem_append, List.mem_cons, not_or, not_or] at hattributes
  exact hattributes.1

/-- An `href` right after the name of the tag is read where no other is a candidate. -/
lemma gap_eq_iff_of_singleton {b : Char} (hlead : tag.lead = [b]) (hb : Text.isBlank b = true) :
    ((PageState.of tag.named).plain.skip <|> (PageState.of tag.named).plain.link.start) =
      some tag.namedAnchor ↔ tag.FitsPlain := by
  have hrest : tag.startTag.rest = b :: tag.named := by
    rw [rest_startTag, hlead]
    rfl
  constructor
  · intro h
    obtain ⟨hvalues, hlink⟩ := brackets_of_gap hlead hb h
    refine ⟨hvalues, hlink, fun l c r hl hne hc hr => ?_⟩
    obtain ⟨d, l, rfl⟩ := List.exists_cons_of_ne_nil hne
    have hcons : b :: tag.named = d :: (l ++ c :: r) := hrest.symm.trans hl
    obtain ⟨rfl, hnamed⟩ := List.cons.inj hcons
    obtain ⟨x, hx⟩ := Option.ne_none_iff_exists'.1
      (PageState.skip_ne_none (not_mem_of_rest hvalues hl hr).2 hc hr)
    rw [← hnamed] at hx
    rw [hx] at h
    obtain rfl := Option.some.inj h
    obtain ⟨l', c', front, q, hc', hfront, hbefore, _⟩ := PageState.before_of_skip hx
    have hsign : tag.href.name ++ tag.link.sign = l' ++ c' :: front := by
      rw [namedAnchor, ← List.append_assoc] at hbefore
      exact (List.append_inj' hbefore rfl).1
    exact absurd hfront ((hsign ▸ tag.named_name_sign).not_named hc')
  · intro h
    have hskip : (PageState.of tag.named).plain.skip = none := by
      refine Option.eq_none_iff_forall_ne_some.2 fun x hx => ?_
      obtain ⟨l, c, r, y, heq, hc, hy, _⟩ := PageState.skip_eq_some hx
      have hr := PageState.start_ne_none_iff.1 (by rw [hy]; exact Option.some_ne_none _)
      have hfirst := h.first (b :: l) c r (by rw [hrest, heq]; rfl) (List.cons_ne_nil _ _) hc hr
      rw [hlead, List.length_singleton] at hfirst
      omega
    rw [hskip]
    exact start_named h

lemma rest_startTag_of_concat {b b' : Char} {l : Text} (hlead : tag.lead = b :: (l ++ [b'])) :
    tag.startTag.rest = b :: (l ++ b' :: tag.named) := by
  rw [rest_startTag, hlead, List.cons_append, List.append_assoc]
  rfl

/-- An `href` further on that is read is the first candidate. -/
lemma fitsPlain_of_gap_concat {b b' : Char} {l : Text} (hlead : tag.lead = b :: (l ++ [b']))
    (hb : Text.isBlank b = true) (hb' : Text.isBlank b' = true)
    (h : ((PageState.of (l ++ b' :: tag.named)).plain.skip <|>
      (PageState.of (l ++ b' :: tag.named)).plain.link.start) =
        some ⟨l ++ b' :: tag.namedAnchor.before, tag.namedAnchor.link, tag.namedAnchor.after⟩) :
    tag.FitsPlain := by
  have hrest := rest_startTag_of_concat hlead
  obtain ⟨hvalues, hlink⟩ := brackets_of_gap hlead hb
    (by simpa only [List.append_assoc, List.singleton_append] using h)
  refine ⟨hvalues, hlink, fun l₁ c r hl hne hc hr => ?_⟩
  obtain ⟨d, l₁, rfl⟩ := List.exists_cons_of_ne_nil hne
  have hcons : b :: (l ++ b' :: tag.named) = d :: (l₁ ++ c :: r) := hrest.symm.trans hl
  obtain ⟨rfl, hnamed⟩ := List.cons.inj hcons
  obtain ⟨x, hx⟩ := Option.ne_none_iff_exists'.1
    (PageState.skip_ne_none (not_mem_of_rest hvalues hl hr).2 hc hr)
  rw [← hnamed] at hx
  rw [hx] at h
  obtain rfl := Option.some.inj h
  obtain ⟨l', c', front, q, hc', hfront, hbefore, hmin⟩ := PageState.before_of_skip hx
  have hquote : l ++ b' :: (tag.href.name ++ tag.link.sign) ++ [tag.link.quote] =
      l' ++ c' :: front ++ [q] := by
    rw [← hbefore]
    simp only [namedAnchor, List.append_assoc, List.cons_append]
  have hsign := (List.append_inj' hquote rfl).1
  have hlength : l.length = l'.length :=
    congrArg List.length (tag.named_name_sign.eq_of_append hb' hfront hc' hsign)
  have hle := hmin l₁ c r hnamed hc hr
  rw [hlead]
  simp only [List.length_cons, List.length_append, List.length_nil]
  omega

/-- An `href` further on is read where it is the first candidate. -/
lemma gap_concat_of_fitsPlain {b b' : Char} {l : Text} (hlead : tag.lead = b :: (l ++ [b']))
    (hb' : Text.isBlank b' = true) (h : tag.FitsPlain) :
    ((PageState.of (l ++ b' :: tag.named)).plain.skip <|>
      (PageState.of (l ++ b' :: tag.named)).plain.link.start) =
        some ⟨l ++ b' :: tag.namedAnchor.before, tag.namedAnchor.link, tag.namedAnchor.after⟩ := by
  have hrest := rest_startTag_of_concat hlead
  have hl : '>' ∉ l := by
    have := (forall_values_iff.1 h.values).1
    rw [hlead, List.mem_cons, List.mem_append, not_or, not_or] at this
    exact this.2.1
  obtain ⟨x, hx⟩ := Option.ne_none_iff_exists'.1 (PageState.skip_ne_none hl hb' (plain_named h))
  obtain ⟨l', c, r, y, heq, hc, hy, rfl, _, hmin⟩ := PageState.skip_eq_some hx
  have hr := PageState.start_ne_none_iff.1 (by rw [hy]; exact Option.some_ne_none _)
  have hle : l'.length ≤ l.length := hmin l b' tag.named rfl hb' (plain_named h)
  have hge := h.first (b :: l') c r (by rw [hrest, heq]; rfl) (List.cons_ne_nil _ _) hc hr
  have hlength : l.length = l'.length := by
    rw [hlead] at hge
    simp only [List.length_cons, List.length_append, List.length_nil] at hge
    omega
  obtain ⟨rfl, hcons⟩ := List.append_inj heq hlength
  obtain ⟨rfl, rfl⟩ := List.cons.inj hcons
  obtain rfl := Option.some.inj ((start_named h).symm.trans hy)
  rw [hx]
  rfl

lemma map_push_eq_some_iff {c : Char} {o : Option Anchor} {x : Anchor} :
    o.map (Anchor.push c) = some (x.push c) ↔ o = some x := by
  rw [Option.map_eq_some_iff]
  constructor
  · rintro ⟨y, rfl, h⟩
    obtain ⟨hbefore, hlink, hafter⟩ := Anchor.mk.inj h
    obtain ⟨_, hbefore⟩ := List.cons.inj hbefore
    cases x
    cases y
    subst hbefore hlink hafter
    rfl
  · rintro rfl
    exact ⟨x, rfl, rfl⟩

/-- The tag without regard to quotes. -/
lemma plain_name_eq_iff (tag : AnchorTag) :
    (PageState.of (tag.letter :: tag.startTag.rest)).plain.name = tag.startTag.named? ↔
      tag.FitsPlain := by
  have hname (t : Text) : (PageState.of (tag.letter :: t)).plain.name =
      (PageState.of t).plain.gap.map (Anchor.push tag.letter) := if_pos tag.toLower_letter
  have hgap {b : Char} (hb : Text.isBlank b = true) (t : Text) : (PageState.of (b :: t)).plain.gap =
      ((PageState.of t).plain.skip <|> (PageState.of t).plain.link.start).map (Anchor.push b) :=
    if_pos hb
  obtain ⟨l, b', hconcat, hb'⟩ := tag.lead_eq_concat
  cases l with
  | nil =>
    have hlead : tag.lead = [b'] := hconcat
    rw [← gap_eq_iff_of_singleton hlead hb', rest_startTag, named?_startTag, hlead,
      List.singleton_append, hname, hgap hb', List.singleton_append]
    change Option.map _ (Option.map _ _) = some ((tag.namedAnchor.push b').push tag.letter) ↔ _
    exact map_push_eq_some_iff.trans map_push_eq_some_iff
  | cons b l =>
    have hlead : tag.lead = b :: (l ++ [b']) := hconcat
    obtain ⟨c, lead, hcons, hb⟩ := tag.lead_eq_cons
    obtain rfl : b = c := (List.cons.inj (hlead.symm.trans hcons)).1
    rw [← Iff.intro (fitsPlain_of_gap_concat hlead hb hb') (gap_concat_of_fitsPlain hlead hb'),
      rest_startTag, named?_startTag, hlead, List.cons_append, hname, hgap hb, List.append_assoc,
      List.singleton_append, List.cons_append, List.append_assoc, List.singleton_append]
    change Option.map _ (Option.map _ _) = some (((Anchor.mk _ _ _).push b).push tag.letter) ↔ _
    exact map_push_eq_some_iff.trans map_push_eq_some_iff

/-- The anchor is read where it stands exactly if it is read as it was written. -/
theorem read?_eq_iff (after : Text) :
    Anchor.read? (tag.startTag.text ++ after) = some tag.anchor ↔ tag.IsRead := by
  have htag : tag.startTag.isAnchor = true := tag.isAnchor_startTag
  obtain ⟨x, hx⟩ : ∃ x, tag.startTag.named? = some x := ⟨_, tag.named?_startTag⟩
  have hpush : tag.anchor = x.push '<' := by
    rw [tag.named?_startTag] at hx
    rw [← Option.some.inj hx]
    rfl
  have hread : Anchor.read? (tag.startTag.text ++ after) =
      (PageState.of (tag.letter :: (tag.startTag.rest ++ after))).anchor?.map (Anchor.push '<') := rfl
  have hname : (PageState.of (tag.letter :: (tag.startTag.rest ++ after))).tag.name = some x :=
    (StartTag.name_of htag after).trans hx
  have hplain : (PageState.of (tag.letter :: (tag.startTag.rest ++ after))).plain =
      (PageState.of (tag.letter :: tag.startTag.rest)).plain := by
    have := PageState.plain_append (tag.letter :: writtenAll tag.startTag.attributes) after
    simpa only [StartTag.rest, startTag, List.append_assoc, List.cons_append, List.nil_append]
      using this
  have hcontains : x.text.contains '<' = true ↔ ∃ v ∈ tag.values, '<' ∈ v.text := by
    have hletter : '<' ∉ tag.startTag.name :=
      not_mem_of_isNameChar tag.startTag.name_chars (by decide)
    have hattributes : '<' ∈ writtenAll tag.startTag.attributes ↔ _ :=
      mem_writtenAll_iff (by decide) (by decide) (by decide)
    have hending : '<' ∉ tag.startTag.closing ++ ['>'] := by
      change '<' ∉ ['>']
      decide
    rw [List.contains_iff_mem, StartTag.text_named? hx, StartTag.rest, List.mem_append,
      List.mem_append, or_iff_right hletter, hattributes, or_iff_left hending]
    rfl
  rw [hread, hpush, map_push_eq_some_iff, PageState.anchor?, hname, hplain]
  change (if x.text.contains '<' then _ else _) = _ ↔ _
  rw [IsRead, ← plain_name_eq_iff, hx]
  by_cases h : x.text.contains '<' = true
  · rw [if_pos h, or_iff_right]
    intro hvalues
    obtain ⟨v, hv, hm⟩ := hcontains.1 h
    exact hvalues v hv hm
  · rw [if_neg h]
    exact iff_of_true rfl (.inl fun v hv hm => h (hcontains.2 ⟨v, hv, hm⟩))

theorem pieces_eq_iff {before after : Text} (hbefore : '<' ∉ before) (hafter : '<' ∉ after) :
    Page.pieces (before ++ (tag.startTag.text ++ after)) =
      before.map .char ++ .anchor tag.anchor :: after.map .char ↔ tag.IsRead := by
  have hrest : Page.pieces after = after.map .char := by
    have := (Silent.of_not_mem hafter).pieces_append []
    rwa [List.append_nil, Page.pieces_nil, List.append_nil] at this
  rw [(Silent.of_not_mem hbefore).pieces_append, List.append_cancel_left_eq, ← read?_eq_iff after]
  constructor
  · intro h
    cases ha : Anchor.read? (tag.startTag.text ++ after) with
    | none =>
      rw [StartTag.text, List.cons_append] at h ha
      rw [Page.pieces_char ha] at h
      cases h
    | some a =>
      obtain ⟨r, hr⟩ := (Anchor.reads_of_read? ha).begins
      rw [← hr] at h ha
      rw [Page.pieces_anchor ha] at h
      rw [Piece.anchor.inj (List.cons.inj h).1]
  · intro h
    rw [← text_anchor] at h ⊢
    rw [Page.pieces_anchor h, hrest]

/-! ## Writing the tag back -/

/-- The tag with another link. -/
def withLink (tag : AnchorTag) (link : Text) (h : tag.link.quote ∉ link) : AnchorTag where
  letter := tag.letter
  front := tag.front
  href := { tag.href with value := some { tag.link with text := link, quote_not_mem := h } }
  link := { tag.link with text := link, quote_not_mem := h }
  back := tag.back
  toLower_letter := tag.toLower_letter
  named_href := tag.named_href
  unnamed_front := tag.unnamed_front
  unnamed_back := tag.unnamed_back

lemma hasRel_withLink {link : Text} (h : tag.link.quote ∉ link) :
    (tag.withLink link h).hasRel = tag.hasRel := by
  simp only [hasRel, startTag, withLink, List.any_append, List.any_cons]
  rfl

lemma written_eq {link : Text} (h : tag.link.quote ∉ link) (sponsored : Bool) :
    tag.written link sponsored = '<' :: ((tag.withLink link h).startTag.name ++
      (writtenAll (tag.withLink link h).startTag.attributes ++
        ((if sponsored then Tag.sponsoredRel else []) ++ ['>']))) := by
  have hrest := rest_startTag (tag.withLink link h)
  have hall : writtenAll (tag.withLink link h).startTag.attributes = tag.lead ++ (tag.href.name ++
      (tag.link.sign ++ tag.link.quote :: (link ++ tag.link.quote :: writtenAll tag.back))) := by
    have hbracket : writtenAll (tag.withLink link h).startTag.attributes ++ ['>'] =
        tag.lead ++ (tag.href.name ++ (tag.link.sign ++ tag.link.quote :: (link ++
          tag.link.quote :: writtenAll tag.back))) ++ ['>'] := by
      refine hrest.trans ?_
      simp only [named, lead, QuotedValue.written, QuotedValue.quoted, List.append_assoc,
        List.cons_append, List.nil_append]
      rfl
    exact List.append_cancel_right hbracket
  rw [hall]
  simp only [written, List.append_assoc, List.cons_append]
  rfl

/-- The same tag among those with attributes of any kind. -/
def rendered (tag : AnchorTag) : RenderedTag where
  letter := tag.letter
  attributes := tag.startTag.attributes.map WrittenAttribute.rendered
  toLower_letter := tag.toLower_letter
  blank_space := Href.Blank.nil

lemma text_rendered (tag : AnchorTag) : tag.rendered.text = tag.startTag.text := by
  rw [RenderedTag.text, RenderedTag.rest, rendered, RenderedAttribute.textAll_rendered]
  rfl

lemma hasRel_rendered (tag : AnchorTag) : tag.rendered.hasRel = tag.hasRel := by
  rw [RenderedTag.hasRel, rendered, List.any_map]
  rfl

lemma text_marked_rendered (tag : AnchorTag) : tag.rendered.marked.text = '<' ::
    (tag.startTag.name ++ (writtenAll tag.startTag.attributes ++ (Tag.sponsoredRel ++ ['>']))) := by
  rw [RenderedTag.text, RenderedTag.rest, RenderedTag.marked, RenderedAttribute.textAll_concat,
    RenderedAttribute.text_sponsored, rendered, RenderedAttribute.textAll_rendered,
    List.append_assoc]
  rfl

/-- All values are in quotes. -/
lemma not_endsInSlash (tag : AnchorTag) : ¬tag.rendered.EndsInSlash := by
  rintro ⟨_, a, ha, v, hv, _⟩
  obtain ⟨w, _, rfl⟩ := List.mem_map.1 (List.mem_of_getLast? ha)
  exact RenderedAttribute.assignment_rendered_ne_bare w v hv

/-- An anchor that was read as written is written back with its new link. -/
lemma rewritten_anchor {link : Link} (h : tag.link.quote ∉ link.monetized) :
    tag.anchor.rewritten link =
      tag.written link.monetized (link.method.isMonetized && !tag.hasRel) := by
  have htext : tag.anchor.withLink link.monetized = (tag.withLink link.monetized h).rendered.text :=
    (text_anchor (tag.withLink link.monetized h)).trans (text_rendered _).symm
  rw [RenderedTag.text_rewritten htext (not_endsInSlash _), hasRel_rendered, hasRel_withLink h,
    written_eq h]
  cases link.method.isMonetized && !tag.hasRel with
  | false => exact text_rendered _
  | true => exact text_marked_rendered _

end AnchorTag

namespace MonetizedPage

/-- A tag without `<` around it is cut out of its page as it was written exactly if it can be told
from its values. Its link is then the only one, and nothing else is written than this link and the mark
of a sponsored target, as long as the link keeps within its quotes. -/
theorem ofHtml_anchorTag (tag : AnchorTag) {before after : Text} (hbefore : '<' ∉ before)
    (hafter : '<' ∉ after) (config : Config) (brand : Option Text) :
    let html := before ++ (tag.startTag.text ++ after)
    let page := (ofHtml html config brand).value
    let link := (Link.ofMarkup tag.link.text config brand).value
    (Page.pieces html = before.map .char ++ .anchor tag.anchor :: after.map .char ↔ tag.IsRead) ∧
      (tag.IsRead → page.links = [link] ∧ link.original = tag.link.text ∧
        (tag.link.quote ∉ link.monetized → page.html = before ++
          (tag.written link.monetized (link.method.isMonetized && !tag.hasRel) ++ after))) := by
  intro html page link
  have hpieces : Page.pieces html = _ ↔ tag.IsRead := AnchorTag.pieces_eq_iff hbefore hafter
  refine ⟨hpieces, fun hread => ⟨?_, rfl, fun hquote => ?_⟩⟩
  · change (ofPieces config brand (Page.pieces html)).value.links = [link]
    have hafter : (ofPieces config brand (after.map .char)).value.links = [] := by
      have := links_chars config brand after []
      rwa [List.append_nil] at this
    rw [hpieces.2 hread, links_chars]
    exact congrArg (link :: ·) hafter
  · rw [html_ofHtml, hpieces.2 hread, List.flatMap_append, List.flatMap_cons,
      flatMap_monetized_chars, flatMap_monetized_chars, ← AnchorTag.rewritten_anchor hquote]
    rfl

/-- A value with an opening bracket before the `href`, which is the first candidate all the same. -/
theorem ofHtml_anchorTag_title :
    let title : WrittenAttribute :=
      { name := "title".toList, value := some { text := "a < b".toList } }
    let link : QuotedValue := { quote := '\'', text := "https://amazon.com/dp/X".toList }
    let tag : AnchorTag :=
      { front := [title], href := { name := "HREF".toList, value := some link }, link,
        back := [{ name := "data-rel".toList }] }
    tag.IsRead ∧ (ofHtml (tag.startTag.text ++ "x".toList) (.ofTag "site-20".toList) none).value.html =
      ("<a title=\"a < b\" HREF='https://amazon.com/dp/X?tag=site-20' data-rel" ++
        " rel=\"nofollow sponsored\">x").toList := by
  intro title link tag
  have hpage :=
    @ofHtml_anchorTag tag [] "x".toList (by decide) (by decide) (.ofTag "site-20".toList) none
  have hread : tag.IsRead := hpage.1.1 (by decide +kernel)
  have hquote : tag.link.quote ∉
      (Link.ofMarkup tag.link.text (.ofTag "site-20".toList) none).value.monetized := by
    decide +kernel
  refine ⟨hread, ((hpage.2 hread).2.2 hquote).trans ?_⟩
  decide +kernel

/-- The bracket in a value makes the tag end inside of another value. -/
theorem exists_html_ofHtml_ne_written :
    let link : QuotedValue := { text := "https://amazon.com/dp/X".toList }
    let tag : AnchorTag :=
      { href := { name := "href".toList, value := some link }, link,
        back := [{ name := "title".toList, value := some { text := "a<b>c".toList } }] }
    ∃ config, Config.build "site-20".toList [] = .ok config ∧
      let page := (ofHtml (tag.startTag.text ++ "x".toList) config none).value
      let written := tag.written "https://amazon.com/dp/X?tag=site-20".toList true ++ "x".toList
      page.links.map Link.monetized = ["https://amazon.com/dp/X?tag=site-20".toList] ∧
        page.html = ("<a href=\"https://amazon.com/dp/X?tag=site-20\" " ++
          "title=\"a<b rel=\"nofollow sponsored\">c\">x").toList ∧ page.html ≠ written := by
  intro link tag
  exact ⟨.ofTag "site-20".toList, Config.build_nil _ (by decide), by decide +kernel⟩

end MonetizedPage

end AffiliateLinks
