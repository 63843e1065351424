import AffiliateLinks.Markup.Monetize
import AffiliateLinks.Proofs.BuiltConfig
import AffiliateLinks.Proofs.TagReading

/-!
# Documents around anchors

A document is text, comments, end tags and start tags in any order. The scanner for anchors knows
nothing of comments or values: it looks at every `<a` that a separator follows. Where no such opening
stands inside a comment or a value, the document is copied but for its anchors, and each anchor is
monetized as if it stood alone.
-/

namespace AffiliateLinks

/-- The beginning that all anchors have. -/
def opensAnchor : Text → Bool
  | c :: letter :: separator :: _ =>
    c = '<' && letter.toLower = 'a' && Attribute.isSeparator separator
  | _ => false

def holdsOpening : Text → Bool
  | [] => false
  | c :: t => opensAnchor (c :: t) || holdsOpening t

structure EndTag where
  name : Text
  space : Text := []
  name_chars : ∀ c ∈ name, isNameChar c = true := by exact List.all_eq_true.1 (by decide)
  blank_space : Href.Blank space := by exact List.all_eq_true.1 (by decide)

inductive Markup
  | text (content : Text) (h : '<' ∉ content)
  | comment (body : Text)
  | endTag (tag : EndTag)
  | startTag (tag : StartTag)

namespace Markup

def written : Markup → Text
  | text content _ => content
  | comment body => "<!--".toList ++ (body ++ "-->".toList)
  | endTag tag => '<' :: '/' :: (tag.name ++ (tag.space ++ ['>']))
  | startTag tag => tag.text

/-- Nothing that could be taken for an anchor stands inside a comment or a value. -/
def isQuiet : Markup → Bool
  | comment body => !holdsOpening body
  | startTag tag => tag.attributes.all fun a => a.value.all fun v => !holdsOpening v.text
  | _ => true

/-- Anchors are monetized each for itself. -/
def monetized (config : Config) (brand : Option Text) : Markup → Text
  | startTag tag =>
    if tag.isAnchor then (MonetizedPage.ofHtml tag.text config brand).value.html else tag.text
  | m => m.written

end Markup

/-- No anchor begins in the text, whatever follows it. -/
def Silent : Text → Prop
  | [] => True
  | c :: s => (∀ t, Anchor.read? (c :: (s ++ t)) = none) ∧ Silent s

/-- An anchor begins with a bracket, its letter and a separator. -/
lemma Anchor.opensAnchor_of_read? {t : Text} {a : Anchor} (h : read? t = some a) :
    opensAnchor t = true := by
  obtain ⟨c, t, rfl⟩ : ∃ c r, t = c :: r := by
    cases t with
    | nil => cases h
    | cons c t => exact ⟨c, t, rfl⟩
  rw [read?, PageState.of_cons] at h
  change (if c = '<' then (PageState.of t).anchor?.map _ else none) = _ at h
  split at h
  · next hc =>
    obtain ⟨x, hx, _⟩ := Option.map_eq_some_iff.1 h
    obtain ⟨y, hy⟩ : ∃ y, (PageState.of t).tag.name = some y := by
      unfold PageState.anchor? at hx
      split at hx
      · next y hy => exact ⟨y, hy⟩
      · cases hx
    cases t with
    | nil => cases hy
    | cons n t =>
      change (if n.toLower = 'a' then (PageState.of t).tag.head.next.map _ else none) = _ at hy
      split at hy
      · next hn =>
        obtain ⟨z, hz, _⟩ := Option.map_eq_some_iff.1 hy
        cases t with
        | nil => cases hz
        | cons s t =>
          change (if Attribute.isSeparator s then _ else none) = _ at hz
          split at hz
          · next hs => simp only [hc, opensAnchor, hn, hs, decide_true, Bool.and_self]
          · cases hz
      · cases hy
  · cases h

lemma Anchor.read?_eq_none {t : Text} (h : opensAnchor t = false) : read? t = none := by
  cases ht : read? t with
  | none => rfl
  | some a => exact absurd (opensAnchor_of_read? ht) (by rw [h]; exact Bool.false_ne_true)

lemma opensAnchor_cons_of_ne {c : Char} (h : c ≠ '<') (t : Text) : opensAnchor (c :: t) = false := by
  cases t with
  | nil => rfl
  | cons n t =>
    cases t with
    | nil => rfl
    | cons s t => rw [opensAnchor, decide_eq_false h, Bool.false_and, Bool.false_and]

lemma opensAnchor_of_letter {n : Char} (h : n.toLower ≠ 'a') (c : Char) (t : Text) :
    opensAnchor (c :: n :: t) = false := by
  cases t with
  | nil => rfl
  | cons s t => rw [opensAnchor, decide_eq_false h, Bool.and_false, Bool.false_and]

lemma opensAnchor_of_separator {s : Char} (h : Attribute.isSeparator s = false) (c n : Char)
    (t : Text) : opensAnchor (c :: n :: s :: t) = false := by
  rw [opensAnchor, h, Bool.and_false]

/-- A text is copied if no anchor begins in it, seen with what follows. -/
lemma Page.pieces_append_of_suffix {s t : Text}
    (h : ∀ c r, c :: r <:+ s → Anchor.read? (c :: (r ++ t)) = none) :
    pieces (s ++ t) = s.map .char ++ pieces t := by
  induction s with
  | nil => rfl
  | cons c s ih =>
    have hfirst := h c s List.suffix_rfl
    have hrest := ih fun d r hr => h d r (hr.trans (List.suffix_cons c s))
    rw [List.cons_append, pieces_char hfirst, hrest]
    rfl

namespace Silent

variable {s s' u name : Text} {c : Char}

lemma append (h : Silent s) (h' : Silent s') : Silent (s ++ s') := by
  induction s with
  | nil => exact h'
  | cons c s ih =>
    refine ⟨fun t => ?_, ih h.2⟩
    have := h.1 (s' ++ t)
    rwa [← List.append_assoc] at this

lemma of_append (h : Silent (s ++ s')) : Silent s' := by
  induction s with
  | nil => exact h
  | cons c s ih => exact ih h.2

lemma of_not_mem (h : '<' ∉ s) : Silent s := by
  induction s with
  | nil => trivial
  | cons c s ih =>
    rw [List.mem_cons, not_or] at h
    exact ⟨fun t => Anchor.read?_eq_none (opensAnchor_cons_of_ne (Ne.symm h.1) _), ih h.2⟩

/-- A text without openings, when its last character cannot be part of one. -/
lemma closed (hu : holdsOpening u = false)
    (hc : c ≠ '<' ∧ c.toLower ≠ 'a' ∧ Attribute.isSeparator c = false) : Silent (u ++ [c]) := by
  obtain ⟨hne, hletter, hseparator⟩ := hc
  induction u with
  | nil => exact ⟨fun t => Anchor.read?_eq_none (opensAnchor_cons_of_ne hne _), trivial⟩
  | cons b u ih =>
    obtain ⟨hb, hu⟩ := Bool.or_eq_false_iff.1 hu
    refine ⟨fun t => Anchor.read?_eq_none ?_, ih hu⟩
    match u with
    | [] => exact opensAnchor_of_letter hletter b t
    | [n] => exact opensAnchor_of_separator hseparator b n t
    | n :: m :: u => exact hb

/-- A bracket and a letter that is not an anchor's. -/
lemma bracket (hc : c.toLower ≠ 'a') (h : '<' ∉ c :: s) : Silent ('<' :: c :: s) :=
  ⟨fun t => Anchor.read?_eq_none (opensAnchor_of_letter hc '<' (s ++ t)), of_not_mem h⟩

/-- A tag with another name than an anchor's. -/
lemma tag (hne : name ≠ []) (hchars : ∀ c ∈ name, isNameChar c = true)
    (hname : Text.eqIgnoringCase name ['a'] = false) (h : Silent (name ++ s)) :
    Silent ('<' :: (name ++ s)) := by
  refine ⟨fun t => Anchor.read?_eq_none ?_, h⟩
  match name with
  | [n] =>
    refine opensAnchor_of_letter (fun hn => ?_) '<' (s ++ t)
    rw [Text.eqIgnoringCase, Text.lower, List.map_singleton, hn] at hname
    exact absurd hname (by decide)
  | n :: m :: name =>
    have hm : m ∈ n :: m :: name := List.mem_cons_of_mem n List.mem_cons_self
    exact opensAnchor_of_separator (isSeparator_of_isNameChar (hchars m hm)) '<' n _

lemma pieces_append (h : Silent s) (t : Text) :
    Page.pieces (s ++ t) = s.map Piece.char ++ Page.pieces t := by
  apply Page.pieces_append_of_suffix
  rintro c r ⟨before, hr⟩
  have hsuffix : Silent (c :: r) := of_append (s := before) (by rwa [hr])
  exact hsuffix.1 t

end Silent

lemma QuotedValue.silent (v : QuotedValue) (h : holdsOpening v.text = false) :
    Silent v.written := by
  have hq : v.quote ≠ '<' ∧ v.quote.toLower ≠ 'a' ∧ Attribute.isSeparator v.quote = false := by
    rcases v.isQuote_quote with hq | hq <;> rw [hq] <;> decide
  have hquoted : holdsOpening (v.quote :: v.text) = false := by
    rw [holdsOpening, opensAnchor_cons_of_ne hq.1, h, Bool.or_self]
  refine Silent.append (.of_not_mem ?_) (.closed hquoted hq)
  rw [sign, List.mem_append, List.mem_cons, not_or, not_or]
  exact ⟨v.blank_left.not_mem (by decide), by decide, v.blank_right.not_mem (by decide)⟩

lemma WrittenAttribute.silent (a : WrittenAttribute)
    (h : (a.value.all fun v => !holdsOpening v.text) = true) : Silent a.written := by
  have hgap : Silent a.gap := .of_not_mem (a.blank_gap.not_mem (by decide))
  have hname : Silent a.name := .of_not_mem (not_mem_of_isNameChar a.name_chars (by decide))
  refine hgap.append (hname.append ?_)
  rw [assigned]
  cases hv : a.value with
  | none => trivial
  | some v =>
    rw [hv, Option.all_some, Bool.not_eq_true'] at h
    exact v.silent h

lemma silent_writtenAll {as : List WrittenAttribute}
    (h : ∀ a ∈ as, (a.value.all fun v => !holdsOpening v.text) = true) : Silent (writtenAll as) := by
  induction as with
  | nil => trivial
  | cons a as ih =>
    exact (a.silent (h a List.mem_cons_self)).append (ih fun b hb => h b (List.mem_cons_of_mem a hb))

lemma EndTag.silent (tag : EndTag) : Silent (Markup.endTag tag).written := by
  refine .bracket (by decide) ?_
  rw [List.mem_cons, List.mem_append, List.mem_append, not_or, not_or, not_or]
  exact ⟨by decide, not_mem_of_isNameChar tag.name_chars (by decide),
    tag.blank_space.not_mem (by decide), by decide⟩

lemma silent_comment {body : Text} (h : holdsOpening body = false) :
    Silent (Markup.comment body).written := by
  have hbody : holdsOpening ('-' :: body) = false := by
    rw [holdsOpening, opensAnchor_cons_of_ne (by decide), h, Bool.or_self]
  have hopening : Silent "<!-".toList := .bracket (by decide) (by decide)
  have hclosing : Silent "->".toList := .of_not_mem (by decide)
  have hall := hopening.append ((Silent.closed hbody (c := '-') (by decide)).append hclosing)
  simpa [Markup.written] using hall

namespace StartTag

variable {tag : StartTag}

lemma silent_rest (h : (Markup.startTag tag).isQuiet = true) : Silent tag.rest := by
  refine (silent_writtenAll (List.all_eq_true.1 h)).append (.of_not_mem ?_)
  rw [List.mem_append, not_or]
  exact ⟨fun hm => absurd (tag.closing_separators _ hm) (by decide), by decide⟩

lemma silent_name_rest (h : (Markup.startTag tag).isQuiet = true) : Silent (tag.name ++ tag.rest) :=
  Silent.append (.of_not_mem (not_mem_of_isNameChar tag.name_chars (by decide))) (silent_rest h)

end StartTag

namespace PageState

lemma plain_append (s t : Text) : (of (s ++ '>' :: t)).plain = (of (s ++ ['>'])).plain := by
  induction s with
  | nil => rfl
  | cons c s ih => exact congrArg (PlainState.step c) ih

end PageState

namespace StartTag

variable {tag : StartTag}

lemma read?_append (h : tag.isAnchor = true) (t : Text) :
    Anchor.read? (tag.text ++ t) = Anchor.read? tag.text := by
  have hname : (PageState.of (tag.name ++ tag.rest ++ t)).tag.name =
      (PageState.of (tag.name ++ tag.rest)).tag.name := by
    have hnil := name_of h []
    rw [List.append_nil] at hnil
    rw [List.append_assoc, name_of h, hnil]
  have hplain : (PageState.of (tag.name ++ tag.rest ++ t)).plain =
      (PageState.of (tag.name ++ tag.rest)).plain := by
    have := PageState.plain_append (tag.name ++ (writtenAll tag.attributes ++ tag.closing)) t
    simpa only [rest, List.append_assoc, List.cons_append, List.nil_append] using this
  have hanchor : (PageState.of (tag.name ++ tag.rest ++ t)).anchor? =
      (PageState.of (tag.name ++ tag.rest)).anchor? := by
    rw [PageState.anchor?, hname, hplain]
    rfl
  rw [text, List.cons_append, Anchor.read?, PageState.of_cons, Anchor.read?, PageState.of_cons]
  exact congrArg (Option.map (Anchor.push '<')) hanchor

/-- An anchor is taken from a quiet tag as if the tag stood alone. -/
lemma pieces_append (h : tag.isAnchor = true) (hquiet : (Markup.startTag tag).isQuiet = true)
    (t : Text) : Page.pieces (tag.text ++ t) = Page.pieces tag.text ++ Page.pieces t := by
  have hrest := silent_name_rest hquiet
  have hread := read?_append h t
  cases ha : Anchor.read? tag.text with
  | none =>
    have hchars (t : Text) (ht : Anchor.read? (tag.text ++ t) = none) : Page.pieces (tag.text ++ t) =
        .char '<' :: ((tag.name ++ tag.rest).map .char ++ Page.pieces t) := by
      rw [text, List.cons_append] at ht ⊢
      rw [Page.pieces_char ht, hrest.pieces_append]
    have hnil := hchars [] (by rw [List.append_nil, ha])
    rw [List.append_nil] at hnil
    rw [hchars t (hread.trans ha), hnil]
    simp only [Page.pieces_nil, List.append_nil, List.cons_append]
  | some a =>
    obtain ⟨r, hr⟩ := (Anchor.reads_of_read? ha).begins
    obtain ⟨x, hx⟩ := Anchor.exists_text_cons ha
    have hsilent : Silent r := by
      have heq : x ++ r = tag.name ++ tag.rest := by
        rw [hx] at hr
        exact (List.cons.inj hr).2
      exact .of_append (heq ▸ hrest)
    have hpieces (t : Text) (ht : Anchor.read? (tag.text ++ t) = some a) :
        Page.pieces (tag.text ++ t) = .anchor a :: (r.map .char ++ Page.pieces t) := by
      rw [← hr, List.append_assoc] at ht ⊢
      rw [Page.pieces_anchor ht, hsilent.pieces_append]
    have hnil := hpieces [] (by rw [List.append_nil, ha])
    rw [List.append_nil] at hnil
    rw [hpieces t (hread.trans ha), hnil]
    simp only [Page.pieces_nil, List.append_nil, List.cons_append]

end StartTag

/-- What is written for a piece of a page. -/
def Piece.monetized (config : Config) (brand : Option Text) : Piece → Text
  | char c => [c]
  | anchor a => a.rewritten (Link.ofMarkup a.link config brand).value

namespace MonetizedPage

variable (config : Config) (brand : Option Text)

lemma html_ofPieces (ps : List Piece) :
    (ofPieces config brand ps).value.html = ps.flatMap (Piece.monetized config brand) := by
  induction ps with
  | nil => rfl
  | cons p ps ih =>
    cases p with
    | char c => exact congrArg (c :: ·) ih
    | anchor a => exact congrArg (_ ++ ·) ih

lemma html_ofHtml (html : Text) : (ofHtml html config brand).value.html =
    (Page.pieces html).flatMap (Piece.monetized config brand) :=
  html_ofPieces config brand (Page.pieces html)

lemma links_chars (s : Text) (ps : List Piece) :
    (ofPieces config brand (s.map .char ++ ps)).value.links =
      (ofPieces config brand ps).value.links := by
  induction s with
  | nil => rfl
  | cons c s ih => exact ih

lemma flatMap_monetized_chars (s : Text) :
    (s.map Piece.char).flatMap (Piece.monetized config brand) = s := by
  induction s with
  | nil => rfl
  | cons c s ih => exact congrArg (c :: ·) ih

end MonetizedPage

namespace Markup

variable {config : Config} {brand : Option Text}

/-- A part of a document is monetized on its own, and what follows it on its own. -/
lemma flatMap_monetized_pieces {m : Markup} (h : m.isQuiet = true) (t : Text) :
    (Page.pieces (m.written ++ t)).flatMap (Piece.monetized config brand) =
      m.monetized config brand ++ (Page.pieces t).flatMap (Piece.monetized config brand) := by
  have hkept (hm : Silent m.written) : (Page.pieces (m.written ++ t)).flatMap
      (Piece.monetized config brand) =
      m.written ++ (Page.pieces t).flatMap (Piece.monetized config brand) := by
    rw [hm.pieces_append, List.flatMap_append, MonetizedPage.flatMap_monetized_chars]
  cases m with
  | text content hcontent => exact hkept (.of_not_mem hcontent)
  | comment body => exact hkept (silent_comment (Bool.not_eq_true' _ ▸ h))
  | endTag tag => exact hkept tag.silent
  | startTag tag =>
    cases ha : tag.isAnchor with
    | false =>
      rw [monetized, ha, if_neg Bool.false_ne_true]
      exact hkept (.tag tag.name_ne_nil tag.name_chars ha (StartTag.silent_name_rest h))
    | true =>
      rw [monetized, ha, if_pos rfl, MonetizedPage.html_ofHtml, written,
        StartTag.pieces_append ha h, List.flatMap_append]

end Markup

namespace MonetizedPage

/-- Where no comment and no value holds the opening of an anchor, monetizing changes nothing but
anchors, and each anchor as if it stood alone. -/
theorem html_ofHtml_document (config : Config) (brand : Option Text) (document : List Markup)
    (h : ∀ m ∈ document, m.isQuiet = true) :
    (ofHtml (document.flatMap Markup.written) config brand).value.html =
      document.flatMap (Markup.monetized config brand) := by
  rw [html_ofHtml]
  induction document with
  | nil => rfl
  | cons m document ih =>
    rw [List.flatMap_cons, Markup.flatMap_monetized_pieces (h m List.mem_cons_self),
      ih fun n hn => h n (List.mem_cons_of_mem m hn), List.flatMap_cons]

/-- An anchor is found beside a doctype, a comment and a value that resemble one. -/
theorem html_ofHtml_document_page :
    let alt : WrittenAttribute :=
      { name := "alt".toList, value := some { text := "</a href='x'>".toList } }
    let href : WrittenAttribute :=
      { name := "href".toList, value := some { text := "https://amazon.com/dp/X".toList } }
    let document : List Markup :=
      [.startTag { name := "!DOCTYPE".toList, attributes := [{ name := "html".toList }] },
        .comment " <a> and <b> ".toList,
        .startTag { name := "img".toList, attributes := [alt], closing := ['/'] },
        .startTag { name := ['A'], attributes := [href] }, .text "x".toList (by decide),
        .endTag { name := ['A'] }]
    (∀ m ∈ document, m.isQuiet = true) ∧
      (ofHtml (document.flatMap Markup.written) (.ofTag "site-20".toList) none).value.html =
        ("<!DOCTYPE html><!-- <a> and <b> --><img alt=\"</a href='x'>\"/>" ++
          "<A href=\"https://amazon.com/dp/X?tag=site-20\" rel=\"nofollow sponsored\">x</A>").toList := by
  intro alt href document
  have hquiet : ∀ m ∈ document, m.isQuiet = true := by decide +kernel
  refine ⟨hquiet, ?_⟩
  rw [html_ofHtml_document _ _ _ hquiet]
  decide +kernel

/-- The text of an anchor is rewritten inside a comment, and inside a value. -/
theorem exists_html_ofHtml_ne :
    let alt : WrittenAttribute :=
      { name := "alt".toList, value := some { text := "<a href='https://amazon.com/dp/X'>".toList } }
    let documents : List (List Markup) :=
      [[.comment "<a href=\"https://amazon.com/dp/X\">".toList],
        [.startTag { name := "img".toList, attributes := [alt] }]]
    ∃ config, Config.build "site-20".toList [] = .ok config ∧ ∀ document ∈ documents,
      document.flatMap (Markup.monetized config none) = document.flatMap Markup.written ∧
      (ofHtml (document.flatMap Markup.written) config none).value.html ≠
        document.flatMap Markup.written := by
  intro alt documents
  exact ⟨.ofTag "site-20".toList, Config.build_nil _ (by decide), by decide +kernel⟩

end MonetizedPage

end AffiliateLinks
