import AffiliateLinks.Proofs.BareValues

/-!
# Tags of any attributes

An attribute is a name, perhaps with a value in quotes or a value that runs to white space or to the
closing bracket. Such attributes are read as they were written, whatever their values hold, but for a
slash right behind a last value without quotes: it is read as the end of the value. Main statement: a
tag says how its target relates to the page exactly if one of its attributes is named `rel`.
-/

namespace AffiliateLinks

/-- What may come after the name of an attribute. -/
inductive Assignment
  | nothing
  | quoted (v : QuotedValue)
  | bare (v : BareValue)

namespace Assignment

def written : Assignment → Text
  | nothing => []
  | quoted v => v.written
  | bare v => v.written

def value? : Assignment → Option Text
  | nothing => none
  | quoted v => some v.text
  | bare v => some v.text

/-- A text that can come after an assignment: a name without a value must not be assigned one there,
and a value without quotes must not go on. -/
def EndsAt (t : Text) : Assignment → Prop
  | nothing => Follows t
  | quoted _ => True
  | bare _ => EndsBare t

variable {v : Assignment} {t : Text}

lemma EndsAt.name_ends (h : v.EndsAt t) :
    ∃ c r, v.written ++ t = c :: r ∧ Attribute.continuesName c = false := by
  cases v with
  | nothing => exact h.ends
  | quoted v =>
    simp only [written, QuotedValue.written, QuotedValue.sign, List.append_assoc, List.cons_append]
    exact v.blank_left.sign_ends _
  | bare v =>
    simp only [written, BareValue.written, List.append_assoc, List.cons_append]
    exact v.blank_left.sign_ends _

lemma EndsAt.value?_written (h : v.EndsAt t) :
    Attribute.value? (v.written ++ t) = v.value?.map fun text => (text, t) := by
  cases v with
  | nothing =>
    rw [written, List.nil_append, Attribute.value?, Attribute.afterEquals?_eq_none h.unassigned]
    rfl
  | quoted v => exact Attribute.value?_written v t
  | bare v => exact BareValue.value?_written h

end Assignment

/-- An attribute with the white space before it. -/
structure RenderedAttribute where
  gap : Text := [' ']
  name : Text
  assignment : Assignment := .nothing
  gap_ne_nil : gap ≠ [] := by decide
  blank_gap : Href.Blank gap := by exact List.all_eq_true.1 (by decide)
  isName_name : Attribute.IsName name := by decide

/-- An attribute that has its value, if any, in quotes. -/
def WrittenAttribute.rendered (a : WrittenAttribute) : RenderedAttribute where
  gap := a.gap
  name := a.name
  assignment := a.value.elim .nothing .quoted
  gap_ne_nil := a.gap_ne_nil
  blank_gap := a.blank_gap
  isName_name := a.isName

namespace RenderedAttribute

def text (a : RenderedAttribute) : Text := a.gap ++ (a.name ++ a.assignment.written)

def read (a : RenderedAttribute) : Attribute := ⟨a.name, a.assignment.value?⟩

def isNamed (key : Text) (a : RenderedAttribute) : Bool := Text.eqIgnoringCase a.name key

/-- The attribute with another value, or none. -/
def assign (a : RenderedAttribute) (v : Assignment) : RenderedAttribute := { a with assignment := v }

/-- The text of attributes, one after the other. -/
def textAll (as : List RenderedAttribute) : Text := as.flatMap text

variable {a : RenderedAttribute} {as bs : List RenderedAttribute} {t : Text}

lemma text_rendered (a : WrittenAttribute) : a.rendered.text = a.written := by
  rw [text, WrittenAttribute.rendered, WrittenAttribute.written, WrittenAttribute.assigned]
  cases a.value <;> rfl

lemma textAll_rendered (as : List WrittenAttribute) :
    textAll (as.map WrittenAttribute.rendered) = writtenAll as := by
  rw [textAll, List.flatMap_map, writtenAll]
  congr 1
  funext a
  exact text_rendered a

lemma assignment_rendered_ne_bare (a : WrittenAttribute) (v : BareValue) :
    a.rendered.assignment ≠ .bare v := by
  rw [WrittenAttribute.rendered]
  cases a.value with
  | none => exact fun h => by cases h
  | some w => exact fun h => by cases h

lemma assign_eq {v : Assignment} (h : a.assignment = v) : a.assign v = a := by
  rw [← h]
  rfl

lemma text_assign_bare (v : BareValue) :
    (a.assign (.bare v)).text = a.gap ++ (a.name ++ (v.left ++ '=' :: (v.right ++ v.text))) := rfl

lemma text_assign_slashed (v : BareValue) :
    (a.assign (.bare v.slashed)).text = (a.assign (.bare v)).text ++ ['/'] := by
  simp only [text_assign_bare, BareValue.slashed, List.append_assoc, List.cons_append]

lemma textAll_cons : textAll (a :: as) = a.text ++ textAll as := rfl

lemma textAll_append : textAll (as ++ bs) = textAll as ++ textAll bs := List.flatMap_append

lemma textAll_concat : textAll (as ++ [a]) = textAll as ++ a.text := by
  rw [textAll_append, textAll, textAll, List.flatMap_singleton]

lemma endsAt_text (v : Assignment) (a : RenderedAttribute) (t : Text) : v.EndsAt (a.text ++ t) := by
  rw [text, List.append_assoc]
  cases v with
  | nothing =>
    rw [List.append_assoc]
    exact .named a.gap_ne_nil a.blank_gap a.isName_name _
  | quoted v => trivial
  | bare v => exact a.blank_gap.endsBare a.gap_ne_nil _

lemma readAll_text (h : a.assignment.EndsAt t) :
    Attribute.readAll (a.text ++ t) = a.read :: Attribute.readAll t := by
  rw [text, List.append_assoc, List.append_assoc,
    Attribute.readAll_named a.blank_gap a.isName_name h.name_ends, h.value?_written, read]
  cases a.assignment <;> rfl

/-- Attributes are read one after the other: each one ends where the next begins. -/
lemma readAll_textAll (h : ∀ a ∈ as.getLast?, a.assignment.EndsAt t) :
    Attribute.readAll (textAll as ++ t) = as.map read ++ Attribute.readAll t := by
  induction as with
  | nil => rfl
  | cons a as ih =>
    rw [textAll_cons, List.append_assoc, List.map_cons, List.cons_append]
    cases as with
    | nil => exact readAll_text (h a rfl)
    | cons b as =>
      rw [← ih h, textAll_cons, List.append_assoc]
      exact readAll_text (endsAt_text a.assignment b _)

end RenderedAttribute

open RenderedAttribute

/-- An anchor with white space and perhaps a slash before its closing bracket. -/
structure RenderedTag where
  letter : Char := 'a'
  attributes : List RenderedAttribute := []
  space : Text := []
  slash : Bool := false
  toLower_letter : letter.toLower = 'a' := by decide
  blank_space : Href.Blank space := by exact List.all_eq_true.1 (by decide)

namespace RenderedTag

variable (tag : RenderedTag)

def closing : Text := tag.space ++ if tag.slash then ['/'] else []

/-- What follows the letter. -/
def rest : Text := textAll tag.attributes ++ (tag.closing ++ ['>'])

def text : Text := '<' :: tag.letter :: tag.rest

def hasRel : Bool := tag.attributes.any (isNamed "rel".toList)

lemma closing_separators : ∀ c ∈ tag.closing, Attribute.isSeparator c = true :=
  tag.blank_space.isSeparator_closing tag.slash

variable {tag}

lemma endsAt_closing {v : Assignment}
    (h : ∀ w, v = .bare w → tag.slash = true → tag.space ≠ []) (t : Text) :
    v.EndsAt (tag.closing ++ '>' :: t) := by
  cases v with
  | nothing => exact .closing tag.closing_separators t
  | quoted v => trivial
  | bare v => exact tag.blank_space.endsBare_closing (h v rfl) t

/-- The attributes are read as they were written where the last one ends before the closing. -/
lemma attributes_text (h : ∀ a ∈ tag.attributes.getLast?, a.assignment.EndsAt (tag.closing ++ ['>'])) :
    Tag.attributes tag.text = tag.attributes.map read := by
  rw [text, rest, Tag.attributes_cons tag.toLower_letter, readAll_textAll h,
    Attribute.readAll_closing tag.closing_separators, List.append_nil]

/-- Only a last value without quotes can run on, into a slash with no white space before it. -/
lemma eq_bare_of_not_endsAt {v : Assignment} (h : ¬v.EndsAt (tag.closing ++ ['>'])) :
    tag.closing = ['/'] ∧ ∃ w, v = .bare w := by
  have hclosing : tag.slash = true ∧ tag.space = [] :=
    Classical.byContradiction fun hc => h (endsAt_closing (fun _ _ hs hspace => hc ⟨hs, hspace⟩) [])
  constructor
  · rw [closing, hclosing.1, hclosing.2]
    rfl
  · cases v with
    | nothing => exact absurd (.closing tag.closing_separators []) h
    | quoted v => exact absurd trivial h
    | bare w => exact ⟨w, rfl⟩

variable (tag)

/-- The text is that of a tag with the same names whose attributes are read as they were written. -/
lemma exists_attributes_text : ∃ tag' : RenderedTag, tag'.text = tag.text ∧
    tag'.attributes.map RenderedAttribute.name = tag.attributes.map RenderedAttribute.name ∧
    Tag.attributes tag'.text = tag'.attributes.map read := by
  by_cases h : ∀ a ∈ tag.attributes.getLast?, a.assignment.EndsAt (tag.closing ++ ['>'])
  · exact ⟨tag, rfl, rfl, attributes_text h⟩
  · obtain ⟨a, ha⟩ := Classical.not_forall.1 h
    obtain ⟨ha, hends⟩ := Classical.not_imp.1 ha
    obtain ⟨hclosing, v, hv⟩ := eq_bare_of_not_endsAt hends
    obtain ⟨front, hfront⟩ := List.getLast?_eq_some_iff.1 ha
    -- the slash belongs to the value that it stands behind
    refine ⟨{ tag with
      attributes := front ++ [a.assign (.bare v.slashed)]
      space := []
      slash := false
      blank_space := .nil }, ?_, ?_, attributes_text fun c _ => endsAt_closing (fun _ _ hs => by cases hs) []⟩
    · rw [text, text, rest, rest, hclosing, hfront, textAll_concat, textAll_concat, text_assign_slashed,
        assign_eq hv]
      simp only [closing, List.append_assoc]
      rfl
    · rw [hfront, List.map_append, List.map_append]
      rfl

/-- The names of attributes are read as they were written, however the tag is closed. -/
lemma map_name_attributes_text : (Tag.attributes tag.text).map Attribute.name =
    tag.attributes.map RenderedAttribute.name := by
  obtain ⟨tag', htext, hname, hread⟩ := tag.exists_attributes_text
  rw [← htext, hread, List.map_map, ← hname]
  rfl

/-- A tag says how its target relates to the page if one of its attributes does. -/
lemma hasRel_text : Tag.hasRel tag.text = tag.hasRel := by
  have hnames : Tag.hasRel tag.text = (tag.attributes.map RenderedAttribute.name).any
      fun name => Text.eqIgnoringCase name "rel".toList := by
    rw [← tag.map_name_attributes_text, List.any_map]
    rfl
  rw [hnames, List.any_map]
  rfl

/-- A tag says how its target relates to the page exactly if one of its attributes is named so. -/
theorem hasRel_text_iff : Tag.hasRel tag.text = true ↔
    ∃ a ∈ tag.attributes, Text.eqIgnoringCase a.name "rel".toList = true := by
  rw [hasRel_text, hasRel, List.any_eq_true]
  rfl

end RenderedTag

end AffiliateLinks
