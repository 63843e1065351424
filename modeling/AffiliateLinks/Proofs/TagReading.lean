import AffiliateLinks.Proofs.StartTags
import AffiliateLinks.Proofs.AnchorReading
import AffiliateLinks.Proofs.Numerals

/-!
# Reading a written tag

The reader goes over a page from the end backwards, so what it reads inside a value depends on all
that follows. Outside of the values it does not: an attribute is read as it was written, whatever
comes after its tag. Main statement: the reading of a tag by its attributes takes the whole tag and
its first link, or nothing.
-/

namespace AffiliateLinks

namespace AttributeState

variable {α : Type} {push : Char → α → α} {st : Text → AttributeState α} {t v front : Text} {c q : Char}

/-- What can be read inside a value, by its quote. -/
def quoted (s : AttributeState α) (q : Char) : Option α :=
  if q = '"' then s.doubleQuoted else s.singleQuoted

lemma quoted_step (s : AttributeState α) (next : Option α) (hq : isQuote q) :
    (s.step push next c).quoted q = (if c = q then s.next else s.quoted q).map (push c) := by
  rcases hq with rfl | rfl
  · rfl
  · rfl

/-- The states at the places of a text. -/
structure Runs (push : Char → α → α) (st : Text → AttributeState α) : Prop where
  nil : st [] = .none
  cons : ∀ c t, st (c :: t) = (st t).step push (st (c :: t)).next c

namespace Runs

lemma quoted (h : Runs push st) (hq : isQuote q) (hv : q ∉ v) (t : Text) :
    (st (v ++ q :: t)).quoted q = (st t).next.map fun a => (v ++ [q]).foldr push a := by
  induction v with
  | nil =>
    rw [List.nil_append, h.cons, quoted_step _ _ hq, if_pos rfl]
    rfl
  | cons c v ih =>
    simp only [List.mem_cons, not_or] at hv
    rw [List.cons_append, h.cons, quoted_step _ _ hq, if_neg (Ne.symm hv.1), ih hv.2, Option.map_map]
    rfl

lemma value_blank (h : Runs push st) (hb : Href.Blank front) (t : Text) :
    (st (front ++ t)).value = (st t).value.map fun a => front.foldr push a := by
  induction front with
  | nil => exact Option.map_id'.symm
  | cons c front ih =>
    have hstep : (st (c :: (front ++ t))).value = (st (front ++ t)).value.map (push c) := by
      rw [h.cons]
      exact if_pos (hb c List.mem_cons_self)
    rw [List.cons_append, hstep, ih fun d hd => hb d (List.mem_cons_of_mem _ hd), Option.map_map]
    rfl

lemma value_quoted (h : Runs push st) (hq : isQuote q) (hv : q ∉ v) (t : Text) :
    (st (q :: (v ++ q :: t))).value = (st t).next.map fun a => (q :: (v ++ [q])).foldr push a := by
  have hblank : Text.isBlank q = false := by rcases hq with rfl | rfl <;> decide
  have hvalue : (st (q :: (v ++ q :: t))).value = ((st (v ++ q :: t)).quoted q).map (push q) := by
    rw [h.cons]
    change (if Text.isBlank q = true then _ else _) = _
    rw [hblank, if_neg Bool.false_ne_true]
    rcases hq with rfl | rfl
    · rfl
    · rfl
  rw [hvalue, h.quoted hq hv, Option.map_map]
  rfl

lemma equals_sign {left : Text} (h : Runs push st) (hleft : Href.Blank left) (t : Text) :
    (st (left ++ '=' :: t)).equals = (st t).value.map fun a => (left ++ ['=']).foldr push a := by
  induction left with
  | nil =>
    rw [List.nil_append, h.cons]
    rfl
  | cons c left ih =>
    have hstep (t : Text) : (st (c :: t)).equals = (st t).equals.map (push c) := by
      rw [h.cons]
      exact if_pos (hleft c List.mem_cons_self)
    rw [List.cons_append, hstep, ih fun d hd => hleft d (List.mem_cons_of_mem _ hd), Option.map_map]
    rfl

lemma equals_written (h : Runs push st) (v : QuotedValue) (t : Text) :
    (st (v.written ++ t)).equals = (st t).next.map fun a => v.written.foldr push a := by
  simp only [QuotedValue.written, QuotedValue.sign, QuotedValue.quoted, List.append_assoc,
    List.cons_append, List.nil_append]
  rw [h.equals_sign v.blank_left, h.value_blank v.blank_right,
    h.value_quoted v.isQuote_quote v.quote_not_mem, Option.map_map, Option.map_map]
  congr 1
  funext a
  simp only [Function.comp_apply, List.foldr_append, List.foldr_cons, List.foldr_nil]

lemma equals_eq_none (h : Runs push st) (ht : (t.dropWhile Text.isBlank).head? ≠ some '=') :
    (st t).equals = .none := by
  induction t with
  | nil =>
    rw [h.nil]
    rfl
  | cons c t ih =>
    rw [h.cons]
    change (if Text.isBlank c = true then _ else _) = _
    by_cases hc : Text.isBlank c = true
    · rw [if_pos hc, ih (by rwa [List.dropWhile_cons_of_pos hc] at ht)]
      rfl
    · rw [List.dropWhile_cons_of_neg hc, List.head?_cons] at ht
      rw [if_neg hc]
      exact if_neg fun he => ht (congrArg some he)

lemma name_end (h : Runs push st) (hc : Attribute.continuesName c = false) (t : Text) :
    (st (c :: t)).name = ((st (c :: t)).equals <|> (st (c :: t)).next) := by
  rw [h.cons]
  change (if Attribute.continuesName c = true then _ else _) = _
  rw [hc, if_neg Bool.false_ne_true]
  rfl

/-- A sign that cannot be passed over ends a name. -/
lemma name_sign {left : Text} (h : Runs push st)
    (hsign : ∀ left t, Href.Blank left → (st (left ++ '=' :: t)).next = .none)
    (hleft : Href.Blank left) (t : Text) :
    (st (left ++ '=' :: t)).name = (st (left ++ '=' :: t)).equals := by
  have hnext := hsign left t hleft
  obtain ⟨c, r, hcr, hc⟩ := hleft.sign_ends t
  rw [hcr] at hnext ⊢
  rw [h.name_end hc, hnext]
  cases (st (c :: r)).equals with
  | none => rfl
  | some a => rfl

lemma name_append (h : Runs push st) (hv : ∀ c ∈ v, Attribute.continuesName c = true) (t : Text) :
    (st (v ++ t)).name = (st t).name.map fun a => v.foldr push a := by
  induction v with
  | nil => exact Option.map_id'.symm
  | cons c v ih =>
    have hstep : (st (c :: (v ++ t))).name = (st (v ++ t)).name.map (push c) := by
      rw [h.cons]
      exact if_pos (hv c List.mem_cons_self)
    rw [List.cons_append, hstep, ih fun d hd => hv d (List.mem_cons_of_mem _ hd), Option.map_map]
    rfl

end Runs

end AttributeState

/-- What is assigned to a name, where the sign cannot be passed over. -/
lemma AttributeState.Runs.name_assigned {α : Type} {push : Char → α → α}
    {st : Text → AttributeState α} {t : Text} (h : Runs push st)
    (hsign : ∀ left t, Href.Blank left → (st (left ++ '=' :: t)).next = .none) (ht : Follows t)
    (value : Option QuotedValue) :
    let assigned := (value.map QuotedValue.written).getD []
    (st (assigned ++ t)).name = (st t).next.map fun a => assigned.foldr push a := by
  intro assigned
  cases value with
  | none =>
    obtain ⟨c, r, rfl, hc⟩ := ht.ends
    have hequals : (st (c :: r)).equals = .none := h.equals_eq_none ht.unassigned
    change (st (c :: r)).name = _
    rw [h.name_end hc, hequals]
    exact Option.map_id'.symm
  | some w =>
    have hname := h.name_sign hsign w.blank_left (w.right ++ (w.quoted ++ t))
    have hequals := h.equals_written w t
    simp only [QuotedValue.written, QuotedValue.sign, List.append_assoc, List.cons_append] at hequals
    simp only [assigned, Option.map_some, Option.getD_some, QuotedValue.written, QuotedValue.sign,
      List.append_assoc, List.cons_append]
    rw [hname, hequals]

lemma Anchor.foldr_push (s : Text) (a : Anchor) :
    s.foldr Anchor.push a = ⟨s ++ a.before, a.link, a.after⟩ := by
  induction s with
  | nil => rfl
  | cons c s ih =>
    rw [List.foldr_cons, ih]
    rfl

namespace LinkState

variable {allowed : Char → Bool} {after : Text → Option Text} {st : Text → LinkState}
  {t v front : Text} {c q : Char}

/-- What can be read inside a link, by its quote. -/
def quoted (s : LinkState) (q : Char) : Option Anchor :=
  if q = '"' then s.doubleQuoted else s.singleQuoted

/-- The states at the places of a text. What can follow a link depends on the place. -/
def Runs (allowed : Char → Bool) (after : Text → Option Text) (st : Text → LinkState) : Prop :=
  ∀ c t, st (c :: t) = (st t).step allowed (after t) c

namespace Runs

lemma quoted_cons (h : Runs allowed after st) (hq : isQuote q) (c : Char) (t : Text) :
    (st (c :: t)).quoted q =
      if c = q then (after t).map (Anchor.closing q)
      else if allowed c then ((st t).quoted q).map (Anchor.pushLink c) else .none := by
  rw [h c t]
  rcases hq with rfl | rfl
  · rfl
  · rfl

lemma quoted (h : Runs allowed after st) (hq : isQuote q) (hv : q ∉ v)
    (hallowed : ∀ c ∈ v, allowed c = true) (t : Text) :
    (st (v ++ q :: t)).quoted q = (after t).map fun x => ⟨[], v, q :: x⟩ := by
  induction v with
  | nil =>
    rw [List.nil_append, h.quoted_cons hq, if_pos rfl]
    rfl
  | cons c v ih =>
    simp only [List.mem_cons, not_or] at hv
    have ih := ih hv.2 fun d hd => hallowed d (List.mem_cons_of_mem _ hd)
    rw [List.cons_append, h.quoted_cons hq, if_neg (Ne.symm hv.1),
      if_pos (hallowed c List.mem_cons_self), ih, Option.map_map]
    rfl

lemma value (h : Runs allowed after st) (hb : Href.Blank front) (hq : isQuote q) (hv : q ∉ v)
    (hallowed : ∀ c ∈ v, allowed c = true) (t : Text) :
    (st (front ++ q :: (v ++ q :: t))).value =
      (after t).map fun x => ⟨front ++ [q], v, q :: x⟩ := by
  induction front with
  | nil =>
    have hblank : Text.isBlank q = false := by rcases hq with rfl | rfl <;> decide
    have hvalue (t : Text) : (st (q :: t)).value = ((st t).quoted q).map (Anchor.push q) := by
      rw [h q t]
      change (if Text.isBlank q = true then _ else _) = _
      rw [hblank, if_neg Bool.false_ne_true]
      rcases hq with rfl | rfl
      · rfl
      · rfl
    rw [List.nil_append, hvalue, h.quoted hq hv hallowed, Option.map_map]
    rfl
  | cons c front ih =>
    have hstep (t : Text) : (st (c :: t)).value = (st t).value.map (Anchor.push c) := by
      rw [h c t]
      exact if_pos (hb c List.mem_cons_self)
    rw [List.cons_append, hstep, ih fun d hd => hb d (List.mem_cons_of_mem _ hd), Option.map_map]
    rfl

lemma equals {left right : Text} (h : Runs allowed after st) (hleft : Href.Blank left)
    (hright : Href.Blank right) (hq : isQuote q) (hv : q ∉ v)
    (hallowed : ∀ c ∈ v, allowed c = true) (t : Text) :
    (st (left ++ '=' :: (right ++ q :: (v ++ q :: t)))).equals =
      (after t).map fun x => ⟨left ++ '=' :: (right ++ [q]), v, q :: x⟩ := by
  induction left with
  | nil =>
    have hstep (t : Text) : (st ('=' :: t)).equals = (st t).value.map (Anchor.push '=') := by
      rw [h '=' t]
      rfl
    rw [List.nil_append, hstep, h.value hright hq hv hallowed, Option.map_map]
    rfl
  | cons c left ih =>
    have hstep (t : Text) : (st (c :: t)).equals = (st t).equals.map (Anchor.push c) := by
      have hb := hleft c List.mem_cons_self
      rw [h c t]
      change (if (Text.isBlank c || c = '=') = true then _ else _) = _
      simp only [hb, Bool.true_or, if_true]
    rw [List.cons_append, hstep, ih fun d hd => hleft d (List.mem_cons_of_mem _ hd), Option.map_map]
    rfl

/-- The letters may be in any case. -/
lemma start {name : Text} (h : Runs allowed after st) (hname : Text.lower name = ['h', 'r', 'e', 'f'])
    (w : QuotedValue) (hallowed : ∀ c ∈ w.text, allowed c = true) (t : Text) :
    (st (name ++ (w.written ++ t))).start =
      (after t).map fun x => ⟨name ++ (w.sign ++ [w.quote]), w.text, w.quote :: x⟩ := by
  have hequals : (st (w.written ++ t)).equals =
      (after t).map fun x => ⟨w.sign ++ [w.quote], w.text, w.quote :: x⟩ := by
    have := h.equals w.blank_left w.blank_right w.isQuote_quote w.quote_not_mem hallowed t
    simpa only [QuotedValue.written, QuotedValue.sign, QuotedValue.quoted, List.append_assoc,
      List.cons_append, List.nil_append] using this
  obtain ⟨a, _, rfl, ha, hname⟩ := List.map_eq_cons_iff.1 hname
  obtain ⟨b, _, rfl, hb, hname⟩ := List.map_eq_cons_iff.1 hname
  obtain ⟨c, _, rfl, hc, hname⟩ := List.map_eq_cons_iff.1 hname
  obtain ⟨d, _, rfl, hd, hname⟩ := List.map_eq_cons_iff.1 hname
  obtain rfl := List.map_eq_nil_iff.1 hname
  simp only [List.cons_append, List.nil_append]
  rw [h a]
  change letter 'h' a (st _).ref = _
  rw [h b]
  change letter 'h' a (letter 'r' b (st _).ef) = _
  rw [h c]
  change letter 'h' a (letter 'r' b (letter 'e' c (st _).f)) = _
  rw [h d]
  change letter 'h' a (letter 'r' b (letter 'e' c (letter 'f' d (st _).equals))) = _
  simp only [letter, ha, hb, hc, hd, if_true, hequals, Option.map_map]
  rfl

end Runs

end LinkState

lemma isNameChar_of_toLower {c l : Char} (h : c.toLower = l) (hl : 97 ≤ l.toNat ∧ l.toNat ≤ 122) :
    isNameChar c = true := by
  have hc : 65 ≤ c.toNat ∧ c.toNat ≤ 122 := by
    rcases (Ascii.toLower_eq_iff hl).1 h with rfl | h
    · omega
    · omega
  have hblank : Text.isBlank c = false := by
    rw [← Bool.not_eq_true]
    intro hb
    have := Text.isBlank_bounds hb
    omega
  have hmark {d : Char} (hd : d.toNat < 65) : c ≠ d := by
    rintro rfl
    omega
  simp [isNameChar, Attribute.startsName, Attribute.continuesName, hblank, hmark]

lemma isNameChar_of_lower_eq_href {name : Text} (h : Text.lower name = ['h', 'r', 'e', 'f']) :
    ∀ c ∈ name, isNameChar c = true := by
  intro c hc
  have hl : c.toLower ∈ ['h', 'r', 'e', 'f'] := h ▸ List.mem_map_of_mem hc
  have hletters : ∀ l ∈ ['h', 'r', 'e', 'f'], decide (97 ≤ l.toNat ∧ l.toNat ≤ 122) = true :=
    List.all_eq_true.1 (by decide)
  exact isNameChar_of_toLower rfl (of_decide_eq_true (hletters _ hl))

lemma Href.Assigned.ends {sign : Text} (h : Assigned sign) :
    ∃ c r, sign = c :: r ∧ Attribute.continuesName c = false := by
  obtain ⟨left, right, hleft, _, rfl⟩ := h
  exact hleft.sign_ends right

/-- A named `href` at the head of a name and what follows it is this name with a sign. -/
lemma Href.Named.exists_sign {front rest name t : Text} (h : Named ['h', 'r', 'e', 'f'] front)
    (hname : ∀ c ∈ name, Attribute.continuesName c = true)
    (ht : ∃ c r, t = c :: r ∧ Attribute.continuesName c = false) (heq : name ++ t = front ++ rest) :
    Text.lower name = ['h', 'r', 'e', 'f'] ∧ ∃ sign, Assigned sign ∧ t = sign ++ rest := by
  obtain ⟨name', sign, hname', hsign, rfl⟩ := h
  have hchars : ∀ c ∈ name', Attribute.continuesName c = true := fun c hc =>
    continuesName_of_isNameChar (isNameChar_of_lower_eq_href hname' c hc)
  obtain ⟨s, r, hs, hends⟩ := hsign.ends
  rw [List.append_assoc] at heq
  obtain ⟨rfl, hrest⟩ := append_inj_of_ends hname hchars ht ⟨s, r ++ rest, by rw [hs]; rfl, hends⟩ heq
  exact ⟨hname', sign, hsign, hrest⟩

namespace WrittenAttribute

variable {a : WrittenAttribute} {t : Text}

/-- A quoted `href` is read only where one was written. -/
lemma link?_ne_none_of_named {front : Text} (ht : Follows t)
    (hfront : Href.Named ['h', 'r', 'e', 'f'] front) (h : front <+: a.name ++ (a.assigned ++ t)) :
    a.link? ≠ none := by
  obtain ⟨rest, h⟩ := h
  obtain ⟨hname, _, ⟨left, right, hleft, _, rfl⟩, hrest⟩ :=
    hfront.exists_sign a.continuesName (a.ends ht) h.symm
  have hnamed : a.isNamed ['h', 'r', 'e', 'f'] = true := by
    rw [isNamed, Text.eqIgnoringCase, hname]
    decide
  rw [link?, if_pos hnamed]
  intro hnone
  rw [assigned, hnone] at hrest
  refine ht.unassigned ?_
  change ([] ++ t) = _ at hrest
  rw [List.nil_append] at hrest
  rw [hrest, List.append_assoc, dropWhile_blank_append hleft, List.cons_append,
    List.dropWhile_cons_of_neg (by decide), List.head?_cons]

end WrittenAttribute

/-! ## Tags -/

namespace PageState

variable {t closing : Text}

lemma of_cons (c : Char) (t : Text) : of (c :: t) = step c (of t) := rfl

lemma runs_tail : AttributeState.Runs List.cons fun t => (of t).tag.tail := ⟨rfl, fun _ _ => rfl⟩

lemma runs_head : AttributeState.Runs Anchor.push fun t => (of t).tag.head := ⟨rfl, fun _ _ => rfl⟩

lemma runs_link :
    LinkState.Runs (fun _ => true) (fun t => (of t).tag.tail.next) fun t => (of t).tag.link :=
  fun _ _ => rfl

lemma tail_separator {c : Char} (h : Attribute.isSeparator c = true) (t : Text) :
    (of (c :: t)).tag.tail.next = (of t).tag.tail.next.map (c :: ·) := if_pos h

lemma tail_separators {front : Text} (h : ∀ c ∈ front, Attribute.isSeparator c = true) (t : Text) :
    (of (front ++ t)).tag.tail.next = (of t).tag.tail.next.map (front ++ ·) := by
  induction front with
  | nil => exact Option.map_id'.symm
  | cons c front ih =>
    rw [List.cons_append, tail_separator (h c List.mem_cons_self),
      ih fun d hd => h d (List.mem_cons_of_mem _ hd), Option.map_map]
    rfl

lemma tail_sign (left t : Text) (h : Href.Blank left) :
    (of (left ++ '=' :: t)).tag.tail.next = .none := by
  have hsign : (of ('=' :: t)).tag.tail.next = .none := rfl
  rw [tail_separators fun c hc => Attribute.isSeparator_of_isBlank (h c hc), hsign]
  rfl

lemma tail_name {c : Char} (h : isNameChar c = true) (t : Text) :
    (of (c :: t)).tag.tail.next = (of t).tag.tail.name.map (c :: ·) := by
  change TagState.tailNext c (of t).tag.tail = _
  rw [TagState.tailNext, isSeparator_of_isNameChar h, if_neg Bool.false_ne_true,
    if_neg (ne_of_isNameChar h (by decide)), if_pos (startsName_of_isNameChar h)]

/-- White space and a name lead to what is assigned to the name. -/
lemma tail_named {gap name : Text} (hgap : Href.Blank gap) (hne : name ≠ [])
    (hname : ∀ c ∈ name, isNameChar c = true) (t : Text) :
    (of (gap ++ (name ++ t))).tag.tail.next =
      (of t).tag.tail.name.map fun x => gap ++ (name ++ x) := by
  obtain ⟨n, name, rfl⟩ := List.exists_cons_of_ne_nil hne
  have hchars : ∀ c ∈ name, Attribute.continuesName c = true := fun c hc =>
    continuesName_of_isNameChar (hname c (List.mem_cons_of_mem n hc))
  have hrest : (of (name ++ t)).tag.tail.name = _ := runs_tail.name_append hchars t
  rw [tail_separators fun c hc => Attribute.isSeparator_of_isBlank (hgap c hc), List.cons_append,
    tail_name (hname n List.mem_cons_self), hrest, Option.map_map, Option.map_map]
  congr 1
  funext x
  simp only [Function.comp_apply, List.foldr_cons_eq_append', List.cons_append]

lemma tail_written (a : WrittenAttribute) (ht : Follows t) :
    (of (a.written ++ t)).tag.tail.next = (of t).tag.tail.next.map (a.written ++ ·) := by
  have hassigned : (of (a.assigned ++ t)).tag.tail.name = _ :=
    runs_tail.name_assigned tail_sign ht a.value
  rw [WrittenAttribute.written, List.append_assoc, List.append_assoc,
    tail_named a.blank_gap a.name_ne_nil a.name_chars, hassigned, Option.map_map]
  congr 1
  funext x
  simp only [Function.comp_apply, List.foldr_cons_eq_append', List.append_assoc]
  rfl

lemma tail_writtenAll (as : List WrittenAttribute) (ht : Follows t) :
    (of (writtenAll as ++ t)).tag.tail.next = (of t).tag.tail.next.map (writtenAll as ++ ·) := by
  induction as with
  | nil => exact Option.map_id'.symm
  | cons a as ih =>
    rw [writtenAll_cons, List.append_assoc, tail_written a (ht.attributes as), ih, Option.map_map]
    congr 1
    funext x
    exact (List.append_assoc _ _ _).symm

/-- Attributes and the end of a tag are read as they were written. -/
lemma tail_rest (as : List WrittenAttribute) (h : ∀ c ∈ closing, Attribute.isSeparator c = true)
    (t : Text) : (of (writtenAll as ++ (closing ++ '>' :: t))).tag.tail.next =
      some (writtenAll as ++ (closing ++ ['>'])) := by
  have hbracket : (of ('>' :: t)).tag.tail.next = some ['>'] := rfl
  rw [tail_writtenAll as (.closing h t), tail_separators h, hbracket]
  rfl

/-- A tag is read from the letter that is its name on. -/
lemma name_letter {c : Char} (hc : c.toLower = 'a') (t : Text) :
    (of (c :: t)).tag.name = (of t).tag.head.next.map (Anchor.push c) := if_pos hc

lemma spaced_separators {front : Text} (h : ∀ c ∈ front, Attribute.isSeparator c = true) (t : Text) :
    (of (front ++ t)).tag.spaced = (of t).tag.spaced.map fun a => front.foldr Anchor.push a := by
  induction front with
  | nil => exact Option.map_id'.symm
  | cons c front ih =>
    have hc := h c List.mem_cons_self
    have hstep (t : Text) : (of (c :: t)).tag.spaced = (of t).tag.spaced.map (Anchor.push c) := by
      rw [of_cons]
      change (if Attribute.isSeparator c then if Attribute.isSeparator c then _ else _ else _) = _
      rw [if_pos hc, if_pos hc]
    rw [List.cons_append, hstep, ih fun d hd => h d (List.mem_cons_of_mem _ hd), Option.map_map]
    rfl

lemma head_separators {front : Text} (hne : front ≠ [])
    (h : ∀ c ∈ front, Attribute.isSeparator c = true) (t : Text) :
    (of (front ++ t)).tag.head.next = (of t).tag.spaced.map fun a => front.foldr Anchor.push a := by
  obtain ⟨c, front, rfl⟩ := List.exists_cons_of_ne_nil hne
  have hstep (t : Text) : (of (c :: t)).tag.head.next = (of t).tag.spaced.map (Anchor.push c) :=
    if_pos (h c List.mem_cons_self)
  rw [List.cons_append, hstep, spaced_separators fun d hd => h d (List.mem_cons_of_mem _ hd),
    Option.map_map]
  rfl

lemma head_closing (h : ∀ c ∈ closing, Attribute.isSeparator c = true) (t : Text) :
    (of (closing ++ '>' :: t)).tag.head.next = .none := by
  cases closing with
  | nil => rfl
  | cons c closing =>
    have hbracket : (of ('>' :: t)).tag.spaced = .none := rfl
    rw [head_separators (List.cons_ne_nil _ _) h, hbracket]
    rfl

lemma head_sign (left t : Text) (h : Href.Blank left) :
    (of (left ++ '=' :: t)).tag.head.next = .none := by
  by_cases hne : left = []
  · rw [hne]
    rfl
  · have hsign : (of ('=' :: t)).tag.spaced = .none := rfl
    rw [head_separators hne fun c hc => Attribute.isSeparator_of_isBlank (h c hc), hsign]
    rfl

/-- At a name, a link is looked for first. -/
lemma spaced_name {c : Char} (h : isNameChar c = true) (t : Text) :
    (of (c :: t)).tag.spaced =
      ((of (c :: t)).tag.link.start <|> (of t).tag.head.name.map (Anchor.push c)) := by
  rw [of_cons]
  change (if Attribute.isSeparator c then _ else
    ((step c (of t)).tag.link.start <|> if Attribute.startsName c then _ else _)) = _
  rw [isSeparator_of_isNameChar h, if_neg Bool.false_ne_true, if_pos (startsName_of_isNameChar h)]

lemma head_gap (a : WrittenAttribute) (t : Text) : (of (a.written ++ t)).tag.head.next =
    (of (a.name ++ (a.assigned ++ t))).tag.spaced.map fun x => a.gap.foldr Anchor.push x := by
  rw [WrittenAttribute.written, List.append_assoc, List.append_assoc, head_separators a.gap_ne_nil
    fun c hc => Attribute.isSeparator_of_isBlank (a.blank_gap c hc)]

/-- White space and a name that begins no link lead to what is assigned to the name. -/
lemma head_named {gap name : Text} (hgap : Href.Blank gap) (hne : gap ≠ []) (hne' : name ≠ [])
    (hname : ∀ c ∈ name, isNameChar c = true) (ht : (of (name ++ t)).tag.link.start = .none) :
    (of (gap ++ (name ++ t))).tag.head.next =
      (of t).tag.head.name.map fun x => (gap ++ name).foldr Anchor.push x := by
  obtain ⟨n, name, rfl⟩ := List.exists_cons_of_ne_nil hne'
  have hchars : ∀ c ∈ name, Attribute.continuesName c = true := fun c hc =>
    continuesName_of_isNameChar (hname c (List.mem_cons_of_mem n hc))
  have hrest : (of (name ++ t)).tag.head.name = _ := runs_head.name_append hchars t
  rw [head_separators hne fun c hc => Attribute.isSeparator_of_isBlank (hgap c hc)]
  rw [List.cons_append] at ht ⊢
  rw [spaced_name (hname n List.mem_cons_self), ht, hrest]
  change Option.map _ (Option.map _ _) = _
  rw [Option.map_map, Option.map_map]
  congr 1
  funext x
  simp only [Function.comp_apply, List.foldr_append, List.foldr_cons]

/-- An attribute without a link is passed over. -/
lemma head_written {a : WrittenAttribute} (ht : Follows t) (ha : a.link? = .none) :
    (of (a.written ++ t)).tag.head.next =
      (of t).tag.head.next.map fun x => a.written.foldr Anchor.push x := by
  have hstart : (of (a.name ++ (a.assigned ++ t))).tag.link.start = .none := by
    refine Option.eq_none_iff_forall_ne_some.2 fun x hx => ?_
    have hreads := (PageState.reads_of _).tag.link.start x hx
    obtain ⟨front, q, hfront, _, hbefore, _⟩ := hreads.quoted
    refine WrittenAttribute.link?_ne_none_of_named ht hfront (.trans ?_ hreads.begins) ha
    rw [Anchor.text, hbefore, List.append_assoc, List.append_assoc]
    exact List.prefix_append _ _
  have hassigned : (of (a.assigned ++ t)).tag.head.name = _ :=
    runs_head.name_assigned head_sign ht a.value
  rw [WrittenAttribute.written, List.append_assoc, List.append_assoc,
    head_named a.blank_gap a.gap_ne_nil a.name_ne_nil a.name_chars hstart, hassigned, Option.map_map]
  congr 1
  funext x
  simp only [Function.comp_apply, List.foldr_append]
  rfl

/-- The first link is taken. -/
lemma head_link {a : WrittenAttribute} {w : QuotedValue} (ha : a.link? = some w) {tail : Text}
    (ht : (of t).tag.tail.next = some tail) :
    (of (a.written ++ t)).tag.head.next =
      some ⟨a.gap ++ (a.name ++ (w.sign ++ [w.quote])), w.text, w.quote :: tail⟩ := by
  rw [WrittenAttribute.link?] at ha
  split at ha
  · next hnamed =>
    have hlower : Text.lower a.name = ['h', 'r', 'e', 'f'] :=
      (beq_iff_eq.1 hnamed).trans (by decide)
    have hassigned : a.assigned = w.written := by rw [WrittenAttribute.assigned, ha]; rfl
    have hstart := runs_link.start hlower w (fun _ _ => rfl) t
    obtain ⟨n, name, hname⟩ := List.exists_cons_of_ne_nil a.name_ne_nil
    have hn := a.name_chars n (hname ▸ List.mem_cons_self)
    rw [head_gap, hassigned]
    rw [hname, List.cons_append] at hstart ⊢
    rw [spaced_name hn, hstart, ht]
    exact congrArg some (Anchor.foldr_push _ _)
  · cases ha

/-- Whatever follows the tag, its attributes are cut at the first link. -/
theorem head_rest (h : ∀ c ∈ closing, Attribute.isSeparator c = true) (as : List WrittenAttribute)
    (t : Text) : (of (writtenAll as ++ (closing ++ '>' :: t))).tag.head.next =
      cutAtLink (closing ++ ['>']) as := by
  induction as with
  | nil => exact head_closing h t
  | cons a as ih =>
    rw [writtenAll_cons, List.append_assoc, cutAtLink]
    cases ha : a.link? with
    | some w => exact head_link ha (tail_rest as h t)
    | none =>
      rw [head_written (.attributes (.closing h t) as) ha, ih]
      congr 1
      funext x
      exact Anchor.foldr_push _ _

end PageState

lemma text_cutAtLink {ending : Text} {as : List WrittenAttribute} {x : Anchor}
    (h : cutAtLink ending as = some x) : x.text = writtenAll as ++ ending := by
  induction as generalizing x with
  | nil => cases h
  | cons a as ih =>
    rw [cutAtLink] at h
    split at h
    · next w ha =>
      cases h
      rw [WrittenAttribute.link?] at ha
      split at ha
      · simp only [Anchor.text, writtenAll_cons, WrittenAttribute.written, WrittenAttribute.assigned,
          ha, Option.map_some, Option.getD_some, QuotedValue.written, QuotedValue.quoted,
          List.append_assoc, List.cons_append, List.nil_append]
      · cases ha
    · obtain ⟨y, hy, rfl⟩ := Option.map_eq_some_iff.1 h
      rw [writtenAll_cons, List.append_assoc, ← ih hy]
      simp only [Anchor.text, List.append_assoc]

namespace StartTag

variable {tag : StartTag}

lemma text_named? {x : Anchor} (h : tag.named? = some x) : x.text = tag.name ++ tag.rest := by
  obtain ⟨y, hy, rfl⟩ := Option.map_eq_some_iff.1 h
  rw [rest, ← text_cutAtLink hy]
  simp only [Anchor.text, List.append_assoc]

lemma exists_name_eq (h : tag.isAnchor = true) : ∃ c, tag.name = [c] ∧ c.toLower = 'a' := by
  have hlower : Text.lower tag.name = ['a'] := (beq_iff_eq.1 h).trans (by decide)
  obtain ⟨c, rest, hname, hc, hrest⟩ := List.map_eq_cons_iff.1 hlower
  exact ⟨c, by rw [hname, List.map_eq_nil_iff.1 hrest], hc⟩

/-- Whatever follows the tag, it is read as it was written. -/
theorem name_of (h : tag.isAnchor = true) (t : Text) :
    (PageState.of (tag.name ++ (tag.rest ++ t))).tag.name = tag.named? := by
  obtain ⟨c, hname, hc⟩ := exists_name_eq h
  have hrest := PageState.head_rest tag.closing_separators tag.attributes t
  rw [named?, hname, List.singleton_append, PageState.name_letter hc, rest, List.append_assoc,
    List.append_assoc, List.singleton_append, hrest]
  rfl

end StartTag

end AffiliateLinks
