import AffiliateLinks.Proofs.RenderedTags

/-!
# Tags with the mark of a sponsored target

The mark of a sponsored target is an attribute, written right before whatever closes the tag. Main
statement: it is read as the last of the attributes, and the others are read as before, unless the
last of them has a value without quotes that ends with a slash. This slash is taken for the one that
closes the tag.
-/

namespace AffiliateLinks

namespace Text

lemma before?_append (p t : Text) : before? p (t ++ p) = some t := before?_eq_some_iff.2 rfl

lemma before?_eq_none {t : Text} {c d : Char} (h : d ≠ c) : before? [c] (t ++ [d]) = none := by
  rw [before?, List.reverse_append]
  change (if c = d then after? [] t.reverse else none).map List.reverse = none
  rw [if_neg (Ne.symm h), Option.map_none]

lemma trimEnd_append {t : Text} {c : Char} (h : isBlank c = false) : trimEnd (t ++ [c]) = t ++ [c] := by
  rw [trimEnd, List.reverse_append, List.reverse_singleton, List.singleton_append,
    List.dropWhile_cons_of_neg (by rw [h]; exact Bool.false_ne_true), List.reverse_cons,
    List.reverse_reverse]

lemma trimEnd_append_blank {t space : Text} (h : Href.Blank space) : trimEnd (t ++ space) = trimEnd t := by
  rw [trimEnd, List.reverse_append, dropWhile_blank_append fun c hc => h c (List.mem_reverse.1 hc),
    trimEnd]

end Text

lemma QuotedValue.quote_ends (v : QuotedValue) : Text.isBlank v.quote = false ∧ v.quote ≠ '/' := by
  rcases v.isQuote_quote with hq | hq <;> rw [hq] <;> decide

namespace Tag

variable {s space space' : Text} {c : Char}

/-- The mark of a sponsored target comes after white space that precedes the closing bracket. -/
lemma addSponsoredRel_bracket (hc : Text.isBlank c = false) (hslash : c ≠ '/')
    (hspace : Href.Blank space) : addSponsoredRel (s ++ [c] ++ space ++ ['>']) =
      s ++ [c] ++ space ++ sponsoredRel ++ ['>'] := by
  have hnone : Text.before? ['/'] (Text.trimEnd (s ++ [c] ++ space)) = none := by
    rw [Text.trimEnd_append_blank hspace, Text.trimEnd_append hc, Text.before?_eq_none hslash]
  simp only [addSponsoredRel, Text.before?_append, Option.getD_some, hnone]

/-- It comes before a slash and the white space there. -/
lemma addSponsoredRel_slash (hc : Text.isBlank c = false) (hspace : Href.Blank space)
    (hspace' : Href.Blank space') : addSponsoredRel (s ++ [c] ++ space ++ ['/'] ++ space' ++ ['>']) =
      s ++ [c] ++ sponsoredRel ++ " />".toList := by
  have hsome : Text.before? ['/'] (Text.trimEnd (s ++ [c] ++ space ++ ['/'] ++ space')) =
      some (s ++ [c] ++ space) := by
    rw [Text.trimEnd_append_blank hspace', Text.trimEnd_append (by decide), Text.before?_append]
  simp only [addSponsoredRel, Text.before?_append, Option.getD_some, hsome,
    Text.trimEnd_append_blank hspace, Text.trimEnd_append hc]

lemma addSponsoredRel_closing (slash : Bool) (hc : Text.isBlank c = false)
    (hslash : slash = false → c ≠ '/') (hspace : Href.Blank space) :
    addSponsoredRel (s ++ [c] ++ (space ++ (if slash then ['/'] else []) ++ ['>'])) =
      s ++ [c] ++ (if slash then [] else space) ++ sponsoredRel ++
        ((if slash then [' '] else []) ++ (if slash then ['/'] else []) ++ ['>']) := by
  cases slash with
  | true =>
    have hadd := addSponsoredRel_slash (s := s) hc hspace .nil
    simp only [if_true, List.append_assoc, List.append_nil] at hadd ⊢
    exact hadd
  | false =>
    have hadd := addSponsoredRel_bracket (s := s) hc (hslash rfl) hspace
    simp only [Bool.false_eq_true, if_false, List.append_assoc, List.nil_append] at hadd ⊢
    exact hadd

end Tag

open RenderedAttribute

/-- What a mark assigns that is written right after an equals sign. -/
def BareValue.mark {left : Text} (h : Href.Blank left) : BareValue where
  left := left
  right := [' ']
  text := "rel=\"nofollow".toList
  blank_left := h

namespace RenderedAttribute

/-- What comes after the value in such a mark. -/
def restOfMark : RenderedAttribute where
  name := "sponsored\"".toList

lemma sponsoredRel_eq :
    Tag.sponsoredRel = ' ' :: ("rel=\"nofollow".toList ++ restOfMark.text) := by decide

/-- The attribute that marks a sponsored target, after white space. -/
def sponsored (space : Text) (h : Href.Blank space) : RenderedAttribute where
  gap := space ++ [' ']
  name := "rel".toList
  assignment := .quoted { text := "nofollow sponsored".toList }
  gap_ne_nil := List.append_ne_nil_of_right_ne_nil _ (List.cons_ne_nil _ _)
  blank_gap := List.forall_mem_append.2 ⟨h, List.forall_mem_singleton.2 (by decide)⟩

lemma text_sponsored {space : Text} (h : Href.Blank space) :
    (sponsored space h).text = space ++ Tag.sponsoredRel := by
  rw [text, sponsored, List.append_assoc]
  rfl

def EndsInSlash (a : RenderedAttribute) : Prop :=
  ∃ v, a.assignment = .bare v ∧ v.text.getLast? = some '/'

/-- No attribute ends with white space, and only a value without quotes ends with a slash. -/
lemma exists_last (a : RenderedAttribute) : ∃ s c, a.text = s ++ [c] ∧ Text.isBlank c = false ∧
    (¬a.EndsInSlash → c ≠ '/') := by
  rw [text]
  cases hv : a.assignment with
  | nothing =>
    have hname := a.isName_name.ne_nil
    have hlast := a.isName_name.continuesName _ (List.getLast_mem hname)
    refine ⟨a.gap ++ a.name.dropLast, a.name.getLast hname, ?_, isBlank_of_continuesName hlast, ?_⟩
    · rw [Assignment.written, List.append_nil, List.append_assoc, List.dropLast_concat_getLast]
    · rintro - hc
      rw [hc] at hlast
      cases hlast
  | quoted v =>
    refine ⟨a.gap ++ (a.name ++ (v.sign ++ v.quote :: v.text)), v.quote, ?_, v.quote_ends.1,
      fun _ => v.quote_ends.2⟩
    simp only [Assignment.written, QuotedValue.written, QuotedValue.quoted, List.append_assoc,
      List.cons_append]
  | bare v =>
    have hlast := v.text_chars _ (List.getLast_mem v.text_ne_nil)
    refine ⟨a.gap ++ (a.name ++ (v.left ++ '=' :: (v.right ++ v.text.dropLast))),
      v.text.getLast v.text_ne_nil, ?_, isBlank_of_continuesBareValue hlast, ?_⟩
    · simp only [Assignment.written, BareValue.written, List.append_assoc, List.cons_append,
        List.dropLast_concat_getLast]
    · intro hslash hc
      exact hslash ⟨v, hv, by rw [List.getLast?_eq_some_getLast v.text_ne_nil, hc]⟩

end RenderedAttribute

namespace RenderedTag

variable (tag : RenderedTag)

/-- The last value has no quotes and ends with a slash, and no other slash closes the tag. -/
def EndsInSlash : Prop := tag.slash = false ∧ ∃ a ∈ tag.attributes.getLast?, a.EndsInSlash

/-- The white space at the end of the tag that the mark comes after. -/
def gap : Text := if tag.slash then [] else tag.space

lemma blank_gap : Href.Blank tag.gap := by
  rw [gap]
  split
  · exact .nil
  · exact tag.blank_space

/-- The tag with the mark of a sponsored target. -/
def marked : RenderedTag where
  letter := tag.letter
  attributes := tag.attributes ++ [.sponsored tag.gap tag.blank_gap]
  space := if tag.slash then [' '] else []
  slash := tag.slash
  toLower_letter := tag.toLower_letter
  blank_space := by
    split
    · exact List.all_eq_true.1 (by decide)
    · exact .nil

lemma attributes_marked : Tag.attributes tag.marked.text =
    tag.attributes.map read ++ [⟨"rel".toList, some "nofollow sponsored".toList⟩] := by
  rw [attributes_text fun a _ => endsAt_closing (fun _ _ hs => ?_) [], marked, List.map_append]
  · rfl
  · have hspace : tag.marked.space = [' '] := if_pos hs
    rw [hspace]
    exact List.cons_ne_nil _ _

variable {tag}

/-- What stands before the closing ends with the letter or with an attribute. -/
lemma exists_last (h : ¬tag.EndsInSlash) : ∃ s c, '<' :: tag.letter :: textAll tag.attributes = s ++ [c] ∧
    Text.isBlank c = false ∧ (tag.slash = false → c ≠ '/') := by
  cases hlast : tag.attributes.getLast? with
  | none =>
    rw [List.getLast?_eq_none_iff.1 hlast]
    have hletter := isNameChar_of_toLower tag.toLower_letter (by decide)
    exact ⟨['<'], tag.letter, rfl, isBlank_of_isNameChar hletter,
      fun _ => ne_of_isNameChar hletter (by decide)⟩
  | some a =>
    obtain ⟨front, hfront⟩ := List.getLast?_eq_some_iff.1 hlast
    obtain ⟨s, c, htext, hblank, hslash⟩ := a.exists_last
    refine ⟨'<' :: tag.letter :: (textAll front ++ s), c, ?_, hblank, fun hs => hslash fun ha => ?_⟩
    · rw [hfront, textAll_concat, htext]
      simp only [List.append_assoc, List.cons_append]
    · exact h ⟨hs, a, hlast, ha⟩

/-- The mark stands where it is written, unless a value takes part in the closing. -/
lemma text_marked (h : ¬tag.EndsInSlash) : tag.marked.text = Tag.addSponsoredRel tag.text := by
  obtain ⟨s, c, hlast, hblank, hslash⟩ := exists_last h
  have htext : tag.text = s ++ [c] ++ (tag.closing ++ ['>']) := by
    rw [text, rest, ← List.cons_append, ← List.cons_append, hlast]
  have hmarked : tag.marked.text =
      s ++ [c] ++ tag.gap ++ Tag.sponsoredRel ++ (tag.marked.closing ++ ['>']) := by
    rw [text, rest, ← hlast, marked, textAll_concat, text_sponsored]
    simp only [List.append_assoc, List.cons_append]
  rw [htext, hmarked]
  exact (Tag.addSponsoredRel_closing tag.slash hblank hslash tag.blank_space).symm

/-- What is written for an anchor that is such a tag with its new link. -/
lemma text_rewritten {x : Anchor} {link : Link} (htext : x.withLink link.monetized = tag.text)
    (h : ¬tag.EndsInSlash) : x.rewritten link =
      (if link.method.isMonetized && !tag.hasRel then tag.marked else tag).text := by
  rw [Anchor.rewritten, htext, hasRel_text]
  split
  · exact (text_marked h).symm
  · rfl

section Lost

variable {front : List RenderedAttribute} {a : RenderedAttribute} {v : BareValue}

lemma attributes_closed (tag : RenderedTag) (as : List RenderedAttribute) :
    Tag.attributes ('<' :: tag.letter :: (textAll as ++ " />".toList)) = as.map read := by
  let closed : RenderedTag := { tag with
    attributes := as, space := [' '], slash := true, blank_space := List.all_eq_true.1 (by decide) }
  have hread : Tag.attributes closed.text = as.map read :=
    attributes_text fun _ _ => endsAt_closing (fun _ _ _ => List.cons_ne_nil _ _) []
  exact hread

/-- A slash at the end of the last value is taken for the one that closes the tag. -/
lemma attributes_slash_lost (hattributes : tag.attributes = front ++ [a.assign (.bare v.slashed)])
    (hslash : tag.slash = false) : Tag.attributes (Tag.addSponsoredRel tag.text) = front.map read ++
      [⟨a.name, some v.text⟩, ⟨"rel".toList, some "nofollow sponsored".toList⟩] := by
  obtain ⟨s, c, hlast, hblank, _⟩ := (a.assign (.bare v)).exists_last
  have htext : tag.text = ('<' :: tag.letter :: (textAll front ++ s)) ++ [c] ++ [] ++ ['/'] ++
      tag.space ++ ['>'] := by
    rw [text, rest, closing, hattributes, hslash, textAll_concat, text_assign_slashed, hlast]
    simp
  have hmarked : Tag.addSponsoredRel tag.text = '<' :: tag.letter ::
      (textAll (front ++ [a.assign (.bare v), .sponsored [] .nil]) ++ " />".toList) := by
    rw [htext, Tag.addSponsoredRel_slash hblank .nil tag.blank_space, textAll_append, textAll_cons,
      textAll_cons, hlast, text_sponsored]
    simp [textAll]
  rw [hmarked, attributes_closed, List.map_append]
  rfl

/-- Where it is the whole of that value, the mark is read as the value in its place. -/
lemma attributes_only_slash (hattributes : tag.attributes = front ++ [a.assign (.bare v)])
    (hv : v.text = ['/']) (hslash : tag.slash = false) :
    Tag.attributes (Tag.addSponsoredRel tag.text) = front.map read ++
      [⟨a.name, some "rel=\"nofollow".toList⟩, ⟨"sponsored\"".toList, none⟩] := by
  have htext : tag.text = ('<' :: tag.letter :: (textAll front ++ (a.gap ++ (a.name ++ v.left)))) ++
      ['='] ++ v.right ++ ['/'] ++ tag.space ++ ['>'] := by
    rw [text, rest, closing, hattributes, hslash, textAll_concat, text_assign_bare, hv]
    simp
  have hmarked : Tag.addSponsoredRel tag.text = '<' :: tag.letter ::
      (textAll (front ++ [a.assign (.bare (.mark v.blank_left)), restOfMark]) ++ " />".toList) := by
    rw [htext, Tag.addSponsoredRel_slash (by decide) v.blank_right tag.blank_space,
      sponsoredRel_eq, textAll_append, textAll_cons, textAll_cons, text_assign_bare]
    simp only [textAll, BareValue.mark, List.flatMap_nil, List.append_assoc, List.cons_append,
      List.nil_append, List.append_nil]
  rw [hmarked, attributes_closed, List.map_append]
  rfl

end Lost

/-- Marked as sponsored, a tag keeps its attributes and has one more, exactly if the slash that closes
it is not the end of a value. -/
theorem attributes_addSponsoredRel_iff (tag : RenderedTag) (h : tag.slash = true → tag.space ≠ []) :
    Tag.attributes tag.text = tag.attributes.map read ∧
    (Tag.attributes (Tag.addSponsoredRel tag.text) =
        tag.attributes.map read ++ [⟨"rel".toList, some "nofollow sponsored".toList⟩] ↔
      ¬tag.EndsInSlash) := by
  refine ⟨attributes_text fun a _ => endsAt_closing (fun _ _ => h) [], ?_, ?_⟩
  · rintro hread ⟨hslash, a, ha, v, hv, hlast⟩
    obtain ⟨front, hfront⟩ := List.getLast?_eq_some_iff.1 ha
    rw [← assign_eq hv] at hfront
    rw [hfront, List.map_append, List.append_assoc] at hread
    rcases BareValue.eq_slashed hlast with hv | ⟨w, rfl⟩
    · rw [attributes_only_slash hfront hv hslash] at hread
      -- the last attribute has another name
      have hrest := (List.cons.inj (List.append_cancel_left hread)).2
      exact absurd hrest (by decide)
    · rw [attributes_slash_lost hfront hslash] at hread
      -- the value is shorter
      have hvalue := (List.cons.inj (List.append_cancel_left hread)).1
      have htext : w.text = w.text ++ ['/'] := Option.some.inj (Attribute.mk.inj hvalue).2
      exact absurd (List.self_eq_append_right.1 htext) (List.cons_ne_nil _ _)
  · intro hends
    rw [← text_marked hends, attributes_marked]

/-- Attributes of every kind, the last of which ends with a slash before the one that closes the tag. -/
theorem attributes_addSponsoredRel_self_closing :
    let tag := "<a href=\"https://amazon.com/dp/X\" title='rel=' download lang=x/ />".toList
    Tag.addSponsoredRel tag =
        "<a href=\"https://amazon.com/dp/X\" title='rel=' download lang=x/".toList ++
          " rel=\"nofollow sponsored\" />".toList ∧
      Tag.attributes (Tag.addSponsoredRel tag) =
        Tag.attributes tag ++ [⟨"rel".toList, some "nofollow sponsored".toList⟩] := by
  let tag : RenderedTag :=
    { attributes :=
        [{ name := "href".toList, assignment := .quoted { text := "https://amazon.com/dp/X".toList } },
          { name := "title".toList, assignment := .quoted { quote := '\'', text := "rel=".toList } },
          { name := "download".toList },
          { name := "lang".toList, assignment := .bare { text := "x/".toList } }]
      space := [' ']
      slash := true }
  obtain ⟨hread, hmarked⟩ := attributes_addSponsoredRel_iff tag fun _ => List.cons_ne_nil _ _
  intro text
  have htext : text = tag.text := by decide
  refine ⟨by decide, ?_⟩
  rw [htext, hread]
  exact hmarked.2 fun hends => by cases hends.1

/-- A title loses the slash that it ends with. -/
theorem exists_slash_lost : ∃ tag : RenderedTag,
    tag.text = "<a href=\"https://amazon.com/dp/X\" title=a/>".toList ∧
    tag.slash = false ∧ Tag.hasRel tag.text = false ∧
    Tag.addSponsoredRel tag.text =
      "<a href=\"https://amazon.com/dp/X\" title=a rel=\"nofollow sponsored\" />".toList ∧
    Tag.attributes (Tag.addSponsoredRel tag.text) ≠
      tag.attributes.map read ++ [⟨"rel".toList, some "nofollow sponsored".toList⟩] := by
  let href : RenderedAttribute :=
    { name := "href".toList, assignment := .quoted { text := "https://amazon.com/dp/X".toList } }
  let title : RenderedAttribute := { name := "title".toList }
  let a : BareValue := { text := "a".toList }
  let tag : RenderedTag := { attributes := [href, title.assign (.bare a.slashed)] }
  have hread : Tag.attributes (Tag.addSponsoredRel tag.text) = [href].map read ++
      [⟨title.name, some a.text⟩, ⟨"rel".toList, some "nofollow sponsored".toList⟩] :=
    attributes_slash_lost rfl rfl
  refine ⟨tag, by decide, rfl, by decide +kernel, by decide, ?_⟩
  rw [hread]
  decide

end RenderedTag

end AffiliateLinks
