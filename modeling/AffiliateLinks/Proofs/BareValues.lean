import AffiliateLinks.Proofs.TagAttributes

/-!
# Values without quotes

A value may stand without quotes, and then runs to white space or to the end of its tag. The reader
takes such a value as far as it goes if the rest of the tag can be read after it, and gives characters
back if not. Main statement: giving characters back leads to no link, so that a value of this kind is
passed over like any other.
-/

namespace AffiliateLinks

/-- A value without quotes. It may hold quotes, equals signs and slashes, but begins with no quote. -/
structure BareValue where
  left : Text := []
  right : Text := []
  text : Text
  blank_left : Href.Blank left := by exact List.all_eq_true.1 (by decide)
  blank_right : Href.Blank right := by exact List.all_eq_true.1 (by decide)
  text_ne_nil : text ≠ [] := by decide
  isQuote_head : text.head?.any (isQuote ·) = false := by decide
  text_chars : ∀ c ∈ text, Attribute.continuesBareValue c = true := by
    exact List.all_eq_true.1 (by decide)

/-- The characters that lead to no second value, wherever they stand in a value without quotes. -/
def isBareChar (c : Char) : Bool :=
  Attribute.continuesBareValue c && c ≠ '"' && c ≠ '\'' && c ≠ '<'

namespace BareValue

variable (v : BareValue)

def written : Text := v.left ++ '=' :: (v.right ++ v.text)

/-- An equals sign at the end of the value would assign it to what follows. -/
def isPlain : Bool := v.text.all isBareChar && v.text.getLast? ≠ some '='

/-- The value with a slash at its end. -/
def slashed : BareValue where
  left := v.left
  right := v.right
  text := v.text ++ ['/']
  blank_left := v.blank_left
  blank_right := v.blank_right
  text_ne_nil := List.append_ne_nil_of_right_ne_nil _ (List.cons_ne_nil _ _)
  isQuote_head := by
    obtain ⟨c, text, hv⟩ := List.exists_cons_of_ne_nil v.text_ne_nil
    have hquote := v.isQuote_head
    rw [hv] at hquote ⊢
    exact hquote
  text_chars := by
    refine List.forall_mem_append.2 ⟨v.text_chars, List.forall_mem_singleton.2 ?_⟩
    decide

variable {v}

lemma eq_slashed (h : v.text.getLast? = some '/') : v.text = ['/'] ∨ ∃ w : BareValue, w.slashed = v := by
  obtain ⟨left, right, text, hleft, hright, hne, hquote, hchars⟩ := v
  obtain ⟨front, rfl⟩ := List.getLast?_eq_some_iff.1 h
  cases front with
  | nil => exact .inl rfl
  | cons c front =>
    have hfront := (List.forall_mem_append.1 hchars).1
    exact .inr ⟨⟨left, right, c :: front, hleft, hright, List.cons_ne_nil c front, hquote, hfront⟩, rfl⟩

lemma exists_text (h : v.isPlain = true) : ∃ c t, v.text = c :: t ∧ isBareChar c = true ∧
    (∀ d ∈ t, isBareChar d = true) ∧ t.getLast? ≠ some '=' := by
  obtain ⟨c, t, hv⟩ := List.exists_cons_of_ne_nil v.text_ne_nil
  obtain ⟨hchars, hlast⟩ := Bool.and_eq_true_iff.1 h
  have hchars := List.all_eq_true.1 hchars
  rw [hv, List.forall_mem_cons] at hchars
  refine ⟨c, t, hv, hchars.1, hchars.2, fun ht => of_decide_eq_true hlast ?_⟩
  rw [hv, List.getLast?_cons, ht]
  rfl

end BareValue

/-- A text at which a value without quotes ends. -/
def EndsBare (t : Text) : Prop := ∃ c r, t = c :: r ∧ Attribute.continuesBareValue c = false

lemma Href.Blank.endsBare {gap : Text} (h : Blank gap) (hne : gap ≠ []) (t : Text) :
    EndsBare (gap ++ t) := by
  obtain ⟨c, gap, rfl⟩ := List.exists_cons_of_ne_nil hne
  refine ⟨c, gap ++ t, rfl, ?_⟩
  rw [Attribute.continuesBareValue, h c List.mem_cons_self]
  rfl

lemma Href.Blank.endsBare_closing {space : Text} {slash : Bool} (h : Blank space)
    (hslash : slash = true → space ≠ []) (t : Text) :
    EndsBare (space ++ (if slash then ['/'] else []) ++ '>' :: t) := by
  by_cases hspace : space = []
  · have hbare : slash ≠ true := fun hs => hslash hs hspace
    rw [hspace, if_neg hbare]
    exact ⟨'>', t, rfl, by decide⟩
  · rw [List.append_assoc]
    exact h.endsBare hspace _

section Chars

variable {c : Char}

lemma continuesBareValue_of_isBareChar (h : isBareChar c = true) :
    Attribute.continuesBareValue c = true :=
  (Bool.and_eq_true_iff.1 (Bool.and_eq_true_iff.1 (Bool.and_eq_true_iff.1 h).1).1).1

lemma ne_of_isBareChar {d : Char} (h : isBareChar c = true) (hd : isBareChar d = false) : c ≠ d := by
  rintro rfl
  exact Bool.false_ne_true (hd.symm.trans h)

lemma not_isQuote_of_isBareChar (h : isBareChar c = true) : ¬isQuote c := by
  rintro (hc | hc)
  · exact ne_of_isBareChar h (by decide) hc
  · exact ne_of_isBareChar h (by decide) hc

lemma isBlank_of_continuesBareValue (h : Attribute.continuesBareValue c = true) :
    Text.isBlank c = false := by
  rw [Attribute.continuesBareValue, Bool.and_eq_true, Bool.not_eq_true'] at h
  exact h.1

lemma isBlank_of_isBareChar (h : isBareChar c = true) : Text.isBlank c = false :=
  isBlank_of_continuesBareValue (continuesBareValue_of_isBareChar h)

lemma blank_or_bracket_of_continuesBareValue (h : Attribute.continuesBareValue c = false) :
    Text.isBlank c = true ∨ c = '>' := by
  simpa only [Attribute.continuesBareValue, Bool.and_eq_false_iff, Bool.not_eq_false',
    decide_eq_false_iff_not, Decidable.not_not] using h

lemma toLower_ne_of_continuesBareValue {l : Char} (h : Attribute.continuesBareValue c = false)
    (hl : 97 ≤ l.toNat ∧ l.toNat ≤ 122) : c.toLower ≠ l := by
  intro hc
  have hn := isNameChar_of_toLower hc hl
  rcases blank_or_bracket_of_continuesBareValue h with hb | rfl
  · rw [isBlank_of_isNameChar hn] at hb
    cases hb
  · cases hn

end Chars

namespace AttributeState.Runs

variable {α : Type} {push : Char → α → α} {st : Text → AttributeState α} {t v left right : Text}
  {c : Char}

lemma bare_end (h : Runs push st) (ht : EndsBare t) : (st t).bare = (st t).next := by
  obtain ⟨c, r, rfl, hc⟩ := ht
  rw [h.cons]
  change ((if Attribute.continuesBareValue c = true then _ else _) <|> _) = _
  rw [hc, if_neg Bool.false_ne_true]
  rfl

/-- A value is taken as far as it goes. -/
lemma bare_append (h : Runs push st) (hv : ∀ c ∈ v, Attribute.continuesBareValue c = true) {x : α}
    (hx : (st t).bare = some x) : (st (v ++ t)).bare = some (v.foldr push x) := by
  induction v with
  | nil => exact hx
  | cons c v ih =>
    have hstep : (st (c :: (v ++ t))).bare =
        ((st (v ++ t)).bare.map (push c) <|> (st (c :: (v ++ t))).next) := by
      rw [h.cons]
      change ((if Attribute.continuesBareValue c = true then _ else _) <|> _) = _
      rw [if_pos (hv c List.mem_cons_self)]
      rfl
    rw [List.cons_append, hstep, ih fun d hd => hv d (List.mem_cons_of_mem _ hd)]
    rfl

lemma value_bare (h : Runs push st) (hc : isBareChar c = true) (t : Text) :
    (st (c :: t)).value = (st t).bare.map (push c) := by
  rw [h.cons]
  change (if Text.isBlank c = true then _ else if c = '"' then _ else if c = '\'' then _ else
    if c = '>' then _ else _) = _
  rw [isBlank_of_isBareChar hc, if_neg Bool.false_ne_true, if_neg (ne_of_isBareChar hc (by decide)),
    if_neg (ne_of_isBareChar hc (by decide)), if_neg (ne_of_isBareChar hc (by decide))]

/-- What is assigned to a name without quotes, where the sign cannot be passed over. -/
lemma name_bare (h : Runs push st)
    (hsign : ∀ left t, Href.Blank left → (st (left ++ '=' :: t)).next = .none)
    (hleft : Href.Blank left) (hright : Href.Blank right) (hc : isBareChar c = true)
    (hv : (st (v ++ t)).bare = (st t).next.map fun x => v.foldr push x) :
    (st (left ++ '=' :: (right ++ c :: (v ++ t)))).name =
      (st t).next.map fun x => (left ++ '=' :: (right ++ c :: v)).foldr push x := by
  rw [h.name_sign hsign hleft, h.equals_sign hleft, h.value_blank hright, h.value_bare hc, hv,
    Option.map_map, Option.map_map, Option.map_map]
  congr 1
  funext x
  simp only [Function.comp_apply, List.foldr_append, List.foldr_cons, List.foldr_nil]

end AttributeState.Runs

lemma LinkState.Runs.equals_eq_none {allowed : Char → Bool} {after : Text → Option Text}
    {st : Text → LinkState} {t : Text} (h : Runs allowed after st) (hnil : (st []).equals = .none)
    (ht : (t.dropWhile Text.isBlank).head? ≠ some '=') : (st t).equals = .none := by
  induction t with
  | nil => exact hnil
  | cons c t ih =>
    rw [h c t]
    change (if (Text.isBlank c || c = '=') = true then _ else _) = _
    by_cases hc : Text.isBlank c = true
    · rw [List.dropWhile_cons_of_pos hc] at ht
      rw [hc, Bool.true_or, if_pos rfl, if_pos rfl, ih ht]
      rfl
    · rw [List.dropWhile_cons_of_neg hc, List.head?_cons] at ht
      have he : c ≠ '=' := fun he => ht (congrArg some he)
      rw [Bool.not_eq_true] at hc
      rw [hc, decide_eq_false he]
      rfl

/-- No link can be read at a place, nor where a value without quotes goes on before it. -/
structure TagState.Unlinked (s : TagState) : Prop where
  name : s.head.name = .none
  bare : s.head.bare = .none
  spaced : s.spaced = .none
  ref : s.link.ref = .none
  ef : s.link.ef = .none
  f : s.link.f = .none
  equals : s.link.equals = .none

namespace TagState.Unlinked

variable {s : TagState} {c : Char}

lemma value (h : s.Unlinked) (hc : isBareChar c = true) :
    (s.step c).head.value = .none ∧ (s.step c).link.value = .none := by
  have hb := isBlank_of_isBareChar hc
  have hdouble : c ≠ '"' := ne_of_isBareChar hc (by decide)
  have hsingle : c ≠ '\'' := ne_of_isBareChar hc (by decide)
  constructor
  · change (if Text.isBlank c = true then _ else if c = '"' then _ else if c = '\'' then _ else
      if c = '>' then _ else s.head.bare.map (Anchor.push c)) = _
    rw [hb, if_neg Bool.false_ne_true, if_neg hdouble, if_neg hsingle,
      if_neg (ne_of_isBareChar hc (by decide)), h.bare]
    rfl
  · change (if Text.isBlank c = true then _ else if c = '"' then _ else if c = '\'' then _ else
      Option.none) = _
    rw [hb, if_neg Bool.false_ne_true, if_neg hdouble, if_neg hsingle]

/-- An equals sign needs that no value begins after it. -/
lemma step (h : s.Unlinked) (hc : isBareChar c = true)
    (hsign : c = '=' → s.head.value = .none ∧ s.link.value = .none) : (s.step c).Unlinked := by
  have hb := isBlank_of_isBareChar hc
  have hletter (l : Char) {o : Option Anchor} (ho : o = .none) : LinkState.letter l c o = .none := by
    rw [ho]
    exact ite_self _
  have hgap : (if Attribute.isSeparator c then s.spaced.map (Anchor.push c) else .none) = .none := by
    rw [h.spaced]
    exact ite_self _
  have hassigned {o : Option Anchor} (ho : c = '=' → o = .none) :
      (if c = '=' then o.map (Anchor.push c) else .none) = .none := by
    by_cases he : c = '='
    · rw [if_pos he, ho he]
      rfl
    · exact if_neg he
  have hname : (if Attribute.continuesName c = true then s.head.name.map (Anchor.push c) else
      (if Text.isBlank c = true then s.head.equals.map (Anchor.push c) else
        if c = '=' then s.head.value.map (Anchor.push c) else .none) <|>
      if Attribute.isSeparator c then s.spaced.map (Anchor.push c) else .none) = .none := by
    rw [h.name, hb, if_neg Bool.false_ne_true, hassigned fun he => (hsign he).1, hgap]
    exact ite_self _
  refine ⟨hname, ?_, ?_, hletter 'r' h.ef, hletter 'e' h.f, hletter 'f' h.equals, ?_⟩
  · change ((if Attribute.continuesBareValue c = true then s.head.bare.map (Anchor.push c) else _) <|>
      if Attribute.isSeparator c then _ else _) = _
    rw [h.bare, hgap]
    exact congrArg (· <|> Option.none) (ite_self _)
  · change (if Attribute.isSeparator c then
      if Attribute.isSeparator c then s.spaced.map (Anchor.push c) else .none else
        LinkState.letter 'h' c s.link.ref <|>
          if Attribute.startsName c then s.head.name.map (Anchor.push c) else .none) = _
    rw [hgap, hletter 'h' h.ref, h.name]
    exact (ite_congr rfl (fun _ => rfl) fun _ => ite_self _).trans (ite_self _)
  · change (if (Text.isBlank c || c = '=') = true then
      (if Text.isBlank c = true then _ else s.link.value).map (Anchor.push c) else .none) = _
    rw [hb, if_neg Bool.false_ne_true, Bool.false_or]
    simpa only [decide_eq_true_eq] using hassigned fun he => (hsign he).2

end TagState.Unlinked

namespace PageState

variable {t v : Text}

/-- Where a value ends at a place without a link, none is read there. -/
lemma unlinked_of (hend : EndsBare t) (ht : Follows t) (hnext : (of t).tag.head.next = .none) :
    (of t).tag.Unlinked := by
  have hbare : (of t).tag.head.bare = .none := (runs_head.bare_end hend).trans hnext
  have hequals : (of t).tag.link.equals = .none := runs_link.equals_eq_none rfl ht.unassigned
  have hunassigned : (of t).tag.head.equals = .none := runs_head.equals_eq_none ht.unassigned
  obtain ⟨c, r, rfl, hc⟩ := hend
  have hletter {l : Char} (hl : 97 ≤ l.toNat ∧ l.toNat ≤ 122) (o : Option Anchor) :
      LinkState.letter l c o = .none := if_neg (toLower_ne_of_continuesBareValue hc hl)
  have hname : Attribute.continuesName c = false := by
    rcases blank_or_bracket_of_continuesBareValue hc with hb | rfl
    · exact continuesName_of_isSeparator (Attribute.isSeparator_of_isBlank hb)
    · decide
  refine ⟨?_, hbare, ?_, hletter (by decide) _, hletter (by decide) _, hletter (by decide) _, hequals⟩
  · have hend : (of (c :: r)).tag.head.name = _ := runs_head.name_end hname r
    rw [hend, hunassigned, hnext]
    rfl
  · rcases blank_or_bracket_of_continuesBareValue hc with hb | rfl
    · have hspaced : (of (c :: r)).tag.spaced = (of (c :: r)).tag.head.next :=
        if_pos (Attribute.isSeparator_of_isBlank hb)
      rw [hspaced, hnext]
    · rfl

/-- Inside of a value, no second value begins. -/
lemma unlinked_append (hv : ∀ c ∈ v, isBareChar c = true) (hlast : v.getLast? ≠ some '=')
    (ht : (of t).tag.Unlinked) : (of (v ++ t)).tag.Unlinked ∧ (v ≠ [] →
      (of (v ++ t)).tag.head.value = .none ∧ (of (v ++ t)).tag.link.value = .none) := by
  induction v with
  | nil => exact ⟨ht, fun h => absurd rfl h⟩
  | cons c v ih =>
    have hc := hv c List.mem_cons_self
    have hrest : (of (v ++ t)).tag.Unlinked ∧ (c = '=' →
        (of (v ++ t)).tag.head.value = .none ∧ (of (v ++ t)).tag.link.value = .none) := by
      cases v with
      | nil => exact ⟨ht, fun he => absurd (congrArg some he) hlast⟩
      | cons d v =>
        obtain ⟨hunlinked, hvalue⟩ := ih (fun e he => hv e (List.mem_cons_of_mem c he)) hlast
        exact ⟨hunlinked, fun _ => hvalue (List.cons_ne_nil d v)⟩
    exact ⟨hrest.1.step hc hrest.2, fun _ => hrest.1.value hc⟩

/-- A value that ends before a tag's further attributes is taken with them or not at all. -/
lemma head_bare_append (hv : ∀ c ∈ v, isBareChar c = true) (hlast : v.getLast? ≠ some '=')
    (hend : EndsBare t) (ht : Follows t) : (of (v ++ t)).tag.head.bare =
      (of t).tag.head.next.map fun x => v.foldr Anchor.push x := by
  have hbare : (of t).tag.head.bare = (of t).tag.head.next := runs_head.bare_end hend
  cases hnext : (of t).tag.head.next with
  | none => exact (unlinked_append hv hlast (unlinked_of hend ht hnext)).1.bare
  | some x =>
    exact runs_head.bare_append (fun c hc => continuesBareValue_of_isBareChar (hv c hc))
      (hbare.trans hnext)

end PageState

/-- A value without quotes is read to its end. -/
lemma Attribute.value?_bare {left right v t : Text} {c : Char} (hleft : Href.Blank left)
    (hright : Href.Blank right) (hc : continuesBareValue c = true) (hquote : ¬isQuote c)
    (hv : ∀ d ∈ v, continuesBareValue d = true) (hend : EndsBare t) :
    value? (left ++ '=' :: (right ++ c :: (v ++ t))) = some (c :: v, t) := by
  rw [value?, afterEquals?_sign hleft hright (isBlank_of_continuesBareValue hc)]
  split
  · next r hr => exact absurd (.inl (List.cons.inj (Option.some.inj hr)).1) hquote
  · next r hr => exact absurd (.inr (List.cons.inj (Option.some.inj hr)).1) hquote
  · next d r _ _ hr =>
    obtain ⟨rfl, rfl⟩ := List.cons.inj (Option.some.inj hr)
    rw [if_pos hc, takeWhile_name hv hend, dropWhile_name hv hend]
  · next hnone => exact absurd rfl (hnone _ _)

namespace BareValue

variable {v : BareValue} {name t : Text}

lemma value?_written (ht : EndsBare t) : Attribute.value? (v.written ++ t) = some (v.text, t) := by
  obtain ⟨c, text, hv⟩ := List.exists_cons_of_ne_nil v.text_ne_nil
  have hchars := v.text_chars
  rw [hv, List.forall_mem_cons] at hchars
  have hquote := v.isQuote_head
  rw [hv] at hquote
  simp only [written, hv, List.append_assoc, List.cons_append]
  exact Attribute.value?_bare v.blank_left v.blank_right hchars.1 (of_decide_eq_false hquote)
    hchars.2 ht

/-- A quoted `href` is not read where the value has no quotes. -/
lemma start_eq_none (h : v.isPlain = true) (hname : ∀ c ∈ name, isNameChar c = true) (t : Text) :
    (PageState.of (name ++ (v.written ++ t))).tag.link.start = .none := by
  apply Option.eq_none_iff_forall_ne_some.2
  intro x hx
  have hreads := (PageState.reads_of _).tag.link.start x hx
  obtain ⟨front, q, hfront, hq, hbefore, _⟩ := hreads.quoted
  obtain ⟨rest, hrest⟩ := hreads.begins
  obtain ⟨c, text, hv, hc, _⟩ := exists_text h
  rw [Anchor.text, hbefore, List.append_assoc, List.append_assoc, List.append_assoc] at hrest
  have hwritten : v.written ++ t = v.left ++ '=' :: (v.right ++ c :: (text ++ t)) := by
    simp only [written, hv, List.append_assoc, List.cons_append]
  have hends := v.blank_left.sign_ends (v.right ++ c :: (text ++ t))
  rw [← hwritten] at hends
  obtain ⟨_, _, ⟨left, right, hleft, hright, rfl⟩, hsign⟩ := hfront.exists_sign
    (fun d hd => continuesName_of_isNameChar (hname d hd)) hends hrest.symm
  -- both texts are white space, a sign, white space, and then a quote in one of them only
  rw [hwritten, List.append_assoc] at hsign
  obtain ⟨_, hsign⟩ := append_inj_of_ends v.blank_left hleft ⟨_, _, rfl, by decide⟩
    ⟨_, _, rfl, by decide⟩ hsign
  obtain ⟨_, hvalue⟩ := append_inj_of_ends v.blank_right hright
    ⟨_, _, rfl, isBlank_of_isBareChar hc⟩ ⟨_, _, rfl, by rcases hq with rfl | rfl <;> decide⟩
    (List.cons.inj hsign).2
  exact not_isQuote_of_isBareChar hc ((List.cons.inj hvalue).1 ▸ hq)

/-- The value is passed over, whether a link comes after it or not. -/
theorem head_written (h : v.isPlain = true) (hend : EndsBare t) (ht : Follows t) :
    (PageState.of (v.written ++ t)).tag.head.name =
      (PageState.of t).tag.head.next.map fun x => v.written.foldr Anchor.push x := by
  obtain ⟨c, text, hv, hc, hchars, hlast⟩ := exists_text h
  have hname : (PageState.of (v.left ++ '=' :: (v.right ++ c :: (text ++ t)))).tag.head.name = _ :=
    PageState.runs_head.name_bare PageState.head_sign v.blank_left v.blank_right hc
      (PageState.head_bare_append hchars hlast hend ht)
  simp only [written, hv, List.append_assoc, List.cons_append]
  exact hname

/-- The value is read where the rest of its tag is. -/
theorem tail_written (h : v.isPlain = true) {x : Text} (hend : EndsBare t)
    (ht : (PageState.of t).tag.tail.next = some x) :
    (PageState.of (v.written ++ t)).tag.tail.name = some (v.written ++ x) := by
  obtain ⟨c, text, hv, hc, hchars, _⟩ := exists_text h
  have hbare : (PageState.of (text ++ t)).tag.tail.bare = some (text.foldr List.cons x) :=
    PageState.runs_tail.bare_append (fun c hc => continuesBareValue_of_isBareChar (hchars c hc))
      ((PageState.runs_tail.bare_end hend).trans ht)
  have hname : (PageState.of (v.left ++ '=' :: (v.right ++ c :: (text ++ t)))).tag.tail.name = _ :=
    PageState.runs_tail.name_bare PageState.tail_sign v.blank_left v.blank_right hc
      (by rw [ht]; exact hbare)
  simp only [written, hv, List.append_assoc, List.cons_append]
  rw [hname, ht, Option.map_some]
  simp only [List.foldr_cons_eq_append', List.append_assoc, List.cons_append]

end BareValue

end AffiliateLinks
