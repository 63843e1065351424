import AffiliateLinks.Proofs.AnchorReading

/-!
# Start tags as they are written

A start tag is a name, attributes set off by white space, and a closing bracket. An attribute is a
name alone, or a name with a value between two equal quotes. A value may hold any character but its
quote, brackets among them.
-/

namespace AffiliateLinks

/-- The characters of names: no white space, no quotes, and none of the marks of a tag. -/
def isNameChar (c : Char) : Bool := Attribute.startsName c && c ≠ '<'

/-- A value between two equal quotes. White space may surround the equals sign before it. -/
structure QuotedValue where
  left : Text := []
  right : Text := []
  quote : Char := '"'
  text : Text
  blank_left : Href.Blank left := by exact List.all_eq_true.1 (by decide)
  blank_right : Href.Blank right := by exact List.all_eq_true.1 (by decide)
  isQuote_quote : isQuote quote := by decide
  quote_not_mem : quote ∉ text := by decide

namespace QuotedValue

variable (v : QuotedValue)

def sign : Text := v.left ++ '=' :: v.right

def quoted : Text := v.quote :: v.text ++ [v.quote]

def written : Text := v.sign ++ v.quoted

end QuotedValue

/-- An attribute of a start tag, with the white space before it. -/
structure WrittenAttribute where
  gap : Text := [' ']
  name : Text
  value : Option QuotedValue := none
  gap_ne_nil : gap ≠ [] := by decide
  blank_gap : Href.Blank gap := by exact List.all_eq_true.1 (by decide)
  name_ne_nil : name ≠ [] := by decide
  name_chars : ∀ c ∈ name, isNameChar c = true := by exact List.all_eq_true.1 (by decide)

namespace WrittenAttribute

variable (a : WrittenAttribute)

/-- What is written after the name. -/
def assigned : Text := (a.value.map QuotedValue.written).getD []

def written : Text := a.gap ++ (a.name ++ a.assigned)

def isNamed (key : Text) : Bool := Text.eqIgnoringCase a.name key

/-- The value of an `href`. -/
def link? : Option QuotedValue := if a.isNamed ['h', 'r', 'e', 'f'] then a.value else none

end WrittenAttribute

/-- The text of attributes, one after the other. -/
def writtenAll (attributes : List WrittenAttribute) : Text :=
  attributes.flatMap WrittenAttribute.written

lemma writtenAll_cons (a : WrittenAttribute) (as : List WrittenAttribute) :
    writtenAll (a :: as) = a.written ++ writtenAll as := rfl

/-- Attributes and the end of their tag, cut at the first link. -/
def cutAtLink (ending : Text) : List WrittenAttribute → Option Anchor
  | [] => none
  | a :: as =>
    match a.link? with
    | some w => some
        ⟨a.gap ++ (a.name ++ (w.sign ++ [w.quote])), w.text, w.quote :: (writtenAll as ++ ending)⟩
    | none => (cutAtLink ending as).map fun x => ⟨a.written ++ x.before, x.link, x.after⟩

/-- White space or slashes may stand before the closing bracket. -/
structure StartTag where
  name : Text
  attributes : List WrittenAttribute := []
  closing : Text := []
  name_ne_nil : name ≠ [] := by decide
  name_chars : ∀ c ∈ name, isNameChar c = true := by exact List.all_eq_true.1 (by decide)
  closing_separators : ∀ c ∈ closing, Attribute.isSeparator c = true := by
    exact List.all_eq_true.1 (by decide)

namespace StartTag

variable (tag : StartTag)

/-- What follows the name. -/
def rest : Text := writtenAll tag.attributes ++ (tag.closing ++ ['>'])

def text : Text := '<' :: (tag.name ++ tag.rest)

def isAnchor : Bool := Text.eqIgnoringCase tag.name ['a']

/-- The tag from its name on, cut at its first link. -/
def named? : Option Anchor :=
  (cutAtLink (tag.closing ++ ['>']) tag.attributes).map fun x => ⟨tag.name ++ x.before, x.link, x.after⟩

end StartTag

section Names

variable {c : Char}

lemma startsName_of_isNameChar (h : isNameChar c = true) : Attribute.startsName c = true :=
  (Bool.and_eq_true_iff.1 h).1

lemma continuesName_of_startsName (h : Attribute.startsName c = true) :
    Attribute.continuesName c = true :=
  (Bool.and_eq_true_iff.1 (Bool.and_eq_true_iff.1 h).1).1

lemma continuesName_of_isNameChar (h : isNameChar c = true) : Attribute.continuesName c = true :=
  continuesName_of_startsName (startsName_of_isNameChar h)

lemma ne_of_isNameChar {d : Char} (h : isNameChar c = true) (hd : isNameChar d = false) : c ≠ d := by
  rintro rfl
  exact Bool.false_ne_true (hd.symm.trans h)

lemma not_mem_of_isNameChar {name : Text} (h : ∀ c ∈ name, isNameChar c = true)
    (hc : isNameChar c = false) : c ∉ name := fun hm =>
  ne_of_isNameChar (h c hm) hc rfl

lemma isSeparator_of_continuesName (h : Attribute.continuesName c = true) :
    Attribute.isSeparator c = false := by
  simp only [Attribute.continuesName, Bool.not_eq_true', Bool.or_eq_false_iff] at h
  rw [Attribute.isSeparator, h.1.1.1, h.1.2]
  rfl

lemma isBlank_of_continuesName (h : Attribute.continuesName c = true) : Text.isBlank c = false :=
  (Bool.or_eq_false_iff.1 (isSeparator_of_continuesName h)).1

lemma isSeparator_of_isNameChar (h : isNameChar c = true) : Attribute.isSeparator c = false :=
  isSeparator_of_continuesName (continuesName_of_isNameChar h)

lemma isBlank_of_isNameChar (h : isNameChar c = true) : Text.isBlank c = false :=
  (Bool.or_eq_false_iff.1 (isSeparator_of_isNameChar h)).1

lemma continuesName_of_isSeparator (h : Attribute.isSeparator c = true) :
    Attribute.continuesName c = false := by
  rcases Bool.or_eq_true_iff.1 h with hb | hs
  · rw [Attribute.continuesName, hb]
    rfl
  · rw [of_decide_eq_true hs]
    decide

end Names

/-- The text is read as one name. A quote may stand in it, but not at its beginning. -/
def Attribute.IsName (name : Text) : Prop :=
  name.head?.any startsName = true ∧ name.all continuesName = true

namespace Attribute.IsName

variable {name : Text}

instance : DecidablePred IsName := fun _ => inferInstanceAs (Decidable (_ ∧ _))

lemma of_startsName (hne : name ≠ []) (h : ∀ c ∈ name, startsName c = true) : IsName name := by
  obtain ⟨n, name, rfl⟩ := List.exists_cons_of_ne_nil hne
  exact ⟨h n List.mem_cons_self,
    List.all_eq_true.2 fun c hc => continuesName_of_startsName (h c hc)⟩

lemma of_isNameChar (hne : name ≠ []) (h : ∀ c ∈ name, isNameChar c = true) : IsName name :=
  of_startsName hne fun c hc => startsName_of_isNameChar (h c hc)

lemma continuesName (h : IsName name) : ∀ c ∈ name, Attribute.continuesName c = true :=
  List.all_eq_true.1 h.2

lemma exists_cons (h : IsName name) : ∃ n rest, name = n :: rest ∧ startsName n = true ∧
    Attribute.continuesName n = true ∧ ∀ c ∈ rest, Attribute.continuesName c = true := by
  cases name with
  | nil => exact absurd h.1 Bool.false_ne_true
  | cons n rest =>
    obtain ⟨hn, hrest⟩ := List.forall_mem_cons.1 h.continuesName
    exact ⟨n, rest, rfl, h.1, hn, hrest⟩

lemma ne_nil (h : IsName name) : name ≠ [] := by
  rintro rfl
  exact Bool.false_ne_true h.1

end Attribute.IsName

lemma Href.Blank.not_mem {front : Text} {c : Char} (h : Href.Blank front)
    (hc : Text.isBlank c = false) : c ∉ front := fun hm =>
  Bool.false_ne_true (hc.symm.trans (h c hm))

lemma dropWhile_blank_append {front : Text} (h : Href.Blank front) (t : Text) :
    (front ++ t).dropWhile Text.isBlank = t.dropWhile Text.isBlank :=
  List.dropWhile_append_of_pos h

lemma WrittenAttribute.isName (a : WrittenAttribute) : Attribute.IsName a.name :=
  .of_isNameChar a.name_ne_nil a.name_chars

/-- A text that can follow an attribute: neither its name nor a missing value goes on there. -/
structure Follows (t : Text) : Prop where
  ends : ∃ c r, t = c :: r ∧ Attribute.continuesName c = false
  unassigned : (t.dropWhile Text.isBlank).head? ≠ some '='

namespace Follows

lemma closing {closing : Text} (h : ∀ c ∈ closing, Attribute.isSeparator c = true) (t : Text) :
    Follows (closing ++ '>' :: t) := by
  refine ⟨?_, ?_⟩
  · cases closing with
    | nil => exact ⟨'>', t, rfl, by decide⟩
    | cons c closing =>
      exact ⟨c, _, rfl, continuesName_of_isSeparator (h c List.mem_cons_self)⟩
  · induction closing with
    | nil =>
      rw [List.nil_append, List.dropWhile_cons_of_neg (by decide), List.head?_cons]
      decide
    | cons c closing ih =>
      rw [List.cons_append]
      by_cases hc : Text.isBlank c = true
      · rw [List.dropWhile_cons_of_pos hc]
        exact ih fun d hd => h d (List.mem_cons_of_mem _ hd)
      · rw [List.dropWhile_cons_of_neg hc, List.head?_cons]
        rintro he
        have hs := h c List.mem_cons_self
        rw [Option.some.inj he] at hs
        exact absurd hs (by decide)

lemma named {gap name : Text} (hgap : gap ≠ []) (hblank : Href.Blank gap)
    (hname : Attribute.IsName name) (t : Text) : Follows (gap ++ (name ++ t)) := by
  obtain ⟨g, gap, rfl⟩ := List.exists_cons_of_ne_nil hgap
  obtain ⟨n, name, rfl, _, hn, _⟩ := hname.exists_cons
  refine ⟨⟨g, _, rfl, ?_⟩, ?_⟩
  · exact continuesName_of_isSeparator (Attribute.isSeparator_of_isBlank (hblank g List.mem_cons_self))
  · rw [dropWhile_blank_append hblank, List.cons_append,
      List.dropWhile_cons_of_neg (by rw [isBlank_of_continuesName hn]; exact Bool.false_ne_true),
      List.head?_cons]
    intro he
    rw [Option.some.inj he] at hn
    exact absurd hn (by decide)

lemma written (a : WrittenAttribute) (t : Text) : Follows (a.written ++ t) := by
  rw [WrittenAttribute.written, List.append_assoc, List.append_assoc]
  exact .named a.gap_ne_nil a.blank_gap a.isName _

lemma attributes {t : Text} (h : Follows t) (as : List WrittenAttribute) :
    Follows (writtenAll as ++ t) := by
  cases as with
  | nil => exact h
  | cons a as =>
    rw [writtenAll_cons, List.append_assoc]
    exact .written a _

end Follows

/-- A name ends where a value is assigned to it. -/
lemma Href.Blank.sign_ends {left : Text} (h : Blank left) (t : Text) :
    ∃ c r, left ++ '=' :: t = c :: r ∧ Attribute.continuesName c = false := by
  cases left with
  | nil => exact ⟨'=', t, rfl, by decide⟩
  | cons c left =>
    exact ⟨c, _, rfl,
      continuesName_of_isSeparator (Attribute.isSeparator_of_isBlank (h c List.mem_cons_self))⟩

namespace WrittenAttribute

lemma continuesName (a : WrittenAttribute) : ∀ c ∈ a.name, Attribute.continuesName c = true :=
  fun c hc => continuesName_of_isNameChar (a.name_chars c hc)

lemma ends (a : WrittenAttribute) {t : Text} (ht : Follows t) :
    ∃ c r, a.assigned ++ t = c :: r ∧ Attribute.continuesName c = false := by
  rw [assigned]
  cases a.value with
  | none => exact ht.ends
  | some w =>
    have hends := w.blank_left.sign_ends (w.right ++ (w.quoted ++ t))
    simpa only [Option.map_some, Option.getD_some, QuotedValue.written, QuotedValue.sign,
      List.append_assoc, List.cons_append] using hends

end WrittenAttribute

section Ends

variable {p : Char → Bool} {name name' t t' : Text}

lemma takeWhile_name (hname : ∀ c ∈ name, p c = true) (ht : ∃ c r, t = c :: r ∧ p c = false) :
    (name ++ t).takeWhile p = name := by
  obtain ⟨c, r, rfl, hc⟩ := ht
  rw [List.takeWhile_append_of_pos hname,
    List.takeWhile_cons_of_neg (by rw [hc]; exact Bool.false_ne_true), List.append_nil]

lemma dropWhile_name (hname : ∀ c ∈ name, p c = true) (ht : ∃ c r, t = c :: r ∧ p c = false) :
    (name ++ t).dropWhile p = t := by
  obtain ⟨c, r, rfl, hc⟩ := ht
  rw [List.dropWhile_append_of_pos hname,
    List.dropWhile_cons_of_neg (by rw [hc]; exact Bool.false_ne_true)]

/-- Two texts agree in the names that they begin with. -/
lemma append_inj_of_ends (hname : ∀ c ∈ name, p c = true) (hname' : ∀ c ∈ name', p c = true)
    (ht : ∃ c r, t = c :: r ∧ p c = false) (ht' : ∃ c r, t' = c :: r ∧ p c = false)
    (h : name ++ t = name' ++ t') : name = name' ∧ t = t' := by
  constructor
  · rw [← takeWhile_name hname ht, h, takeWhile_name hname' ht']
  · rw [← dropWhile_name hname ht, h, dropWhile_name hname' ht']

end Ends

section Marks

variable {c : Char}

lemma WrittenAttribute.mem_written_iff (a : WrittenAttribute) (hname : isNameChar c = false)
    (hblank : Text.isBlank c = false) (hsign : c ≠ '=' ∧ ¬isQuote c) :
    c ∈ a.written ↔ ∃ v ∈ a.value, c ∈ v.text := by
  have hgap := a.blank_gap.not_mem hblank
  have hchars := not_mem_of_isNameChar a.name_chars hname
  rw [written, assigned, List.mem_append, List.mem_append, or_iff_right hgap, or_iff_right hchars]
  cases a.value with
  | none => simp
  | some v =>
    have hquote : c ≠ v.quote := fun h => hsign.2 (h ▸ v.isQuote_quote)
    have hleft := v.blank_left.not_mem hblank
    have hright := v.blank_right.not_mem hblank
    simp [QuotedValue.written, QuotedValue.sign, QuotedValue.quoted, hquote, hleft, hright, hsign.1]

lemma mem_writtenAll_iff {as : List WrittenAttribute} (hname : isNameChar c = false)
    (hblank : Text.isBlank c = false) (hsign : c ≠ '=' ∧ ¬isQuote c) :
    c ∈ writtenAll as ↔ ∃ v ∈ as.filterMap WrittenAttribute.value, c ∈ v.text := by
  simp only [writtenAll, List.mem_flatMap, List.mem_filterMap,
    WrittenAttribute.mem_written_iff _ hname hblank hsign]
  constructor
  · rintro ⟨a, ha, v, hv, hc⟩
    exact ⟨v, ⟨a, ha, hv⟩, hc⟩
  · rintro ⟨v, ⟨a, ha, hv⟩, hc⟩
    exact ⟨a, ha, v, hv, hc⟩

end Marks

end AffiliateLinks
