import AffiliateLinks.Markup.Anchor
import Mathlib.Tactic.Lemma

/-!
# What the anchor reader reads

The reader goes over a page backwards and keeps, for each place, what can be read from there. Here
each field of its state gets the language of what stands before the opening quote of the link, and
one step of the reader is shown to lead from these languages to themselves. So every anchor that is
read stands in the page character by character, and holds an `href` between two equal quotes.

The marks of a page say for each place which anchor begins there, and the pieces of a page are
computed from the front: the anchor at the head and then the pieces of what follows its text, or one
character and then the pieces of the rest. Put together the pieces are the page.
-/

namespace AffiliateLinks

/-- The condition holds for what was read, if anything was. -/
def Each {α : Type} (P : α → Prop) (o : Option α) : Prop := ∀ a ∈ o, P a

namespace Each

variable {α β : Type} {P : α → Prop} {Q : β → Prop}

lemma none : Each P .none := by
  intro a h
  cases h

lemma some {a : α} (h : P a) : Each P (.some a) := by
  intro b hb
  cases hb
  exact h

lemma map {f : α → β} {o : Option α} (h : Each P o) (hf : ∀ a, P a → Q (f a)) :
    Each Q (o.map f) := by
  intro b hb
  obtain ⟨a, ha, rfl⟩ := Option.map_eq_some_iff.1 hb
  exact hf a (h a ha)

lemma ite {p : Prop} [Decidable p] {o o' : Option α} (h : p → Each P o) (h' : ¬p → Each P o') :
    Each P (if p then o else o') := by
  by_cases hp : p
  · rw [if_pos hp]
    exact h hp
  · rw [if_neg hp]
    exact h' hp

lemma orElse {o o' : Option α} (h : Each P o) (h' : Each P o') : Each P (o <|> o') := by
  cases o with
  | none => exact h'
  | some a => exact h

lemma imp {P' : α → Prop} {o : Option α} (h : Each P o) (hP : ∀ a, P a → P' a) : Each P' o :=
  fun a ha => hP a (h a ha)

end Each

def isQuote (q : Char) : Prop := q = '"' ∨ q = '\''

instance (q : Char) : Decidable (isQuote q) := inferInstanceAs (Decidable (_ ∨ _))

namespace Href

def Blank (front : Text) : Prop := ∀ c ∈ front, Text.isBlank c = true

/-- An equals sign in white space. -/
def Assigned (front : Text) : Prop :=
  ∃ left right, Blank left ∧ Blank right ∧ front = left ++ '=' :: right

/-- The letters in any case, and an equals sign. -/
def Named (letters front : Text) : Prop :=
  ∃ name sign, Text.lower name = letters ∧ Assigned sign ∧ front = name ++ sign

/-- An attribute name `href` with its equals sign at the end, set off from what precedes it. -/
def Separated (front : Text) : Prop :=
  ∃ left separator name, Attribute.isSeparator separator = true ∧ Named ['h', 'r', 'e', 'f'] name ∧
    front = left ++ separator :: name

/-- As `Separated`, after a tag name of one letter. -/
def InTag (front : Text) : Prop := ∃ c rest, c.toLower = 'a' ∧ Separated rest ∧ front = c :: rest

/-- As `InTag`, with the opening bracket of the tag. -/
def InAnchor (front : Text) : Prop := ∃ rest, InTag rest ∧ front = '<' :: rest

variable {c l : Char} {letters front : Text}

lemma Blank.nil : Blank [] := by
  intro c h
  cases h

lemma Blank.cons (hc : Text.isBlank c = true) (h : Blank front) : Blank (c :: front) := by
  intro d hd
  rcases List.mem_cons.1 hd with rfl | hd
  · exact hc
  · exact h d hd

lemma Blank.assigned (h : Blank front) : Assigned ('=' :: front) := ⟨[], front, .nil, h, rfl⟩

lemma Assigned.blank (hc : Text.isBlank c = true) (h : Assigned front) : Assigned (c :: front) := by
  obtain ⟨left, right, hl, hr, rfl⟩ := h
  exact ⟨c :: left, right, hl.cons hc, hr, rfl⟩

lemma Assigned.named (h : Assigned front) : Named [] front := ⟨[], front, rfl, h, rfl⟩

lemma Named.letter (hc : c.toLower = l) (h : Named letters front) :
    Named (l :: letters) (c :: front) := by
  obtain ⟨name, sign, hn, hs, rfl⟩ := h
  refine ⟨c :: name, sign, ?_, hs, rfl⟩
  rw [← hc, ← hn]
  rfl

lemma Named.separated (hc : Attribute.isSeparator c = true) (h : Named ['h', 'r', 'e', 'f'] front) :
    Separated (c :: front) := ⟨[], c, front, hc, h, rfl⟩

lemma Separated.cons (c : Char) (h : Separated front) : Separated (c :: front) := by
  obtain ⟨left, separator, name, hs, hn, rfl⟩ := h
  exact ⟨c :: left, separator, name, hs, hn, rfl⟩

end Href

namespace Anchor

/-- The anchor stands at the head of the text. A quote precedes its link, another such quote follows
it, and `front` holds for what comes before the first of them. -/
structure Reads (front : Text → Prop) (t : Text) (a : Anchor) : Prop where
  begins : a.text <+: t
  quoted : ∃ f q, front f ∧ isQuote q ∧ a.before = f ++ [q] ∧ a.after.head? = some q ∧ q ∉ a.link
  closed : a.after.getLast? = some '>'

/-- As `Reads`, at a place inside the link. -/
structure Continues (q : Char) (t : Text) (a : Anchor) : Prop where
  begins : a.text <+: t
  opened : a.before = []
  quoted : a.after.head? = some q
  unquoted : q ∉ a.link
  closed : a.after.getLast? = some '>'

variable {t : Text} {a : Anchor} {front front' : Text → Prop} {c q : Char}

lemma Reads.push (h : a.Reads front t) (hf : ∀ f, front f → front' (c :: f)) :
    (a.push c).Reads front' (c :: t) := by
  obtain ⟨f, q, hfront, hq, hb, ha, hl⟩ := h.quoted
  refine ⟨List.cons_prefix_cons.2 ⟨rfl, h.begins⟩, ⟨c :: f, q, hf f hfront, hq, ?_, ha, hl⟩,
    h.closed⟩
  simp only [Anchor.push, hb, List.cons_append]

lemma Reads.imp (h : a.Reads front t) (hf : ∀ f, front f → front' f) : a.Reads front' t := by
  obtain ⟨f, q, hfront, hq, hrest⟩ := h.quoted
  exact ⟨h.begins, ⟨f, q, hf f hfront, hq, hrest⟩, h.closed⟩

lemma Continues.pushLink (h : a.Continues q t) (hc : c ≠ q) :
    (a.pushLink c).Continues q (c :: t) := by
  refine ⟨?_, h.opened, h.quoted, ?_, h.closed⟩
  · have hb := h.begins
    simp only [Anchor.text, h.opened, List.nil_append] at hb
    simpa only [Anchor.text, Anchor.pushLink, h.opened, List.nil_append, List.cons_append,
      List.cons_prefix_cons, true_and] using hb
  · simp only [Anchor.pushLink, List.mem_cons, not_or]
    exact ⟨Ne.symm hc, h.unquoted⟩

lemma Continues.closing {after : Text} (hp : after <+: t) (hc : after.getLast? = some '>') :
    (Anchor.closing q after).Continues q (q :: t) := by
  refine ⟨List.cons_prefix_cons.2 ⟨rfl, hp⟩, rfl, rfl, List.not_mem_nil, ?_⟩
  simp only [Anchor.closing, List.getLast?_cons, hc, Option.getD_some]

lemma Continues.push (h : a.Continues q t) (hq : isQuote q) :
    (a.push q).Reads Href.Blank (q :: t) := by
  refine ⟨List.cons_prefix_cons.2 ⟨rfl, h.begins⟩, ⟨[], q, .nil, hq, ?_, h.quoted, h.unquoted⟩,
    h.closed⟩
  simp only [Anchor.push, h.opened, List.nil_append]

end Anchor

/-- One condition for everything that an attribute can be followed by. -/
structure AttributeState.All {α : Type} (P : α → Prop) (s : AttributeState α) : Prop where
  next : Each P s.next
  name : Each P s.name
  equals : Each P s.equals
  value : Each P s.value
  doubleQuoted : Each P s.doubleQuoted
  singleQuoted : Each P s.singleQuoted
  bare : Each P s.bare

lemma AttributeState.All.none {α : Type} (P : α → Prop) : (AttributeState.none : AttributeState α).All P :=
  ⟨.none, .none, .none, .none, .none, .none, .none⟩

lemma AttributeState.All.step {α : Type} {P Q : α → Prop} {push : Char → α → α}
    {s : AttributeState α} {next : Option α} {c : Char} (h : s.All P) (hnext : Each Q next)
    (hpush : ∀ a, P a → Q (push c a)) : (s.step push next c).All Q := by
  have hequals : Each Q (s.step push next c).equals := by
    refine .ite (fun _ => h.equals.map hpush) (fun _ => ?_)
    exact .ite (fun _ => h.value.map hpush) (fun _ => .none)
  have hquoted {o : Option α} (q : Char) (ho : Each P o) :
      Each Q ((if c = q then s.next else o).map (push c)) := by
    refine Each.map ?_ hpush
    exact .ite (fun _ => h.next) (fun _ => ho)
  refine ⟨hnext, ?_, hequals, ?_, hquoted '"' h.doubleQuoted, hquoted '\'' h.singleQuoted, ?_⟩
  · exact .ite (fun _ => h.name.map hpush) (fun _ => hequals.orElse hnext)
  · refine .ite (fun _ => h.value.map hpush) (fun _ => ?_)
    refine .ite (fun _ => h.doubleQuoted.map hpush) (fun _ => ?_)
    refine .ite (fun _ => h.singleQuoted.map hpush) (fun _ => ?_)
    exact .ite (fun _ => .none) (fun _ => h.bare.map hpush)
  · exact (Each.ite (fun _ => h.bare.map hpush) (fun _ => .none)).orElse hnext

/-- The rest of a tag, up to its closing bracket. -/
def Closes (t tail : Text) : Prop := tail <+: t ∧ tail.getLast? = some '>'

lemma Closes.cons {c : Char} {t tail : Text} (h : Closes t tail) : Closes (c :: t) (c :: tail) := by
  refine ⟨List.cons_prefix_cons.2 ⟨rfl, h.1⟩, ?_⟩
  rw [List.getLast?_cons, h.2, Option.getD_some]

lemma Closes.bracket (t : Text) : Closes ('>' :: t) ['>'] :=
  ⟨List.cons_prefix_cons.2 ⟨rfl, List.nil_prefix⟩, rfl⟩

structure LinkState.Reads (t : Text) (s : LinkState) : Prop where
  start : Each (Anchor.Reads (Href.Named ['h', 'r', 'e', 'f']) t) s.start
  ref : Each (Anchor.Reads (Href.Named ['r', 'e', 'f']) t) s.ref
  ef : Each (Anchor.Reads (Href.Named ['e', 'f']) t) s.ef
  f : Each (Anchor.Reads (Href.Named ['f']) t) s.f
  equals : Each (Anchor.Reads Href.Assigned t) s.equals
  value : Each (Anchor.Reads Href.Blank t) s.value
  doubleQuoted : Each (Anchor.Continues '"' t) s.doubleQuoted
  singleQuoted : Each (Anchor.Continues '\'' t) s.singleQuoted

lemma LinkState.Reads.none (t : Text) : LinkState.none.Reads t :=
  ⟨.none, .none, .none, .none, .none, .none, .none, .none⟩

lemma LinkState.each_letter {l c : Char} {t : Text} {letters : Text} {o : Option Anchor}
    (h : Each (Anchor.Reads (Href.Named letters) t) o) :
    Each (Anchor.Reads (Href.Named (l :: letters)) (c :: t)) (LinkState.letter l c o) :=
  .ite (fun hc => h.map fun _ ha => ha.push fun _ hf => hf.letter hc) (fun _ => .none)

lemma LinkState.Reads.step {after : Option Text} {t : Text} {s : LinkState} (h : s.Reads t)
    (hafter : Each (Closes t) after) (allowed : Char → Bool) (c : Char) :
    (s.step allowed after c).Reads (c :: t) := by
  have hquoted {q : Char} {o : Option Anchor} (ho : Each (Anchor.Continues q t) o) :
      Each (Anchor.Continues q (c :: t)) (if c = q then after.map (Anchor.closing q)
        else if allowed c then o.map (Anchor.pushLink c) else .none) := by
    refine .ite (fun hc => ?_) (fun hc => .ite (fun _ => ?_) (fun _ => .none))
    · subst hc
      exact hafter.map fun _ ha => .closing ha.1 ha.2
    · exact ho.map fun _ ha => ha.pushLink hc
  refine ⟨each_letter h.ref, each_letter h.ef, each_letter h.f,
    each_letter (h.equals.imp fun _ ha => ha.imp fun _ hf => hf.named), ?_, ?_,
    hquoted h.doubleQuoted, hquoted h.singleQuoted⟩
  · refine .ite (fun hc => ?_) (fun _ => .none)
    by_cases hb : Text.isBlank c = true
    · rw [if_pos hb]
      exact h.equals.map fun _ ha => ha.push fun _ hf => hf.blank hb
    · rw [if_neg hb]
      have he : c = '=' := by simpa only [hb, Bool.false_or, decide_eq_true_eq] using hc
      subst he
      exact h.value.map fun _ ha => ha.push fun _ hf => hf.assigned
  · refine .ite (fun hc => ?_) (fun _ => ?_)
    · exact h.value.map fun _ ha => ha.push fun _ hf => hf.cons hc
    · refine .ite (fun hc => ?_) (fun _ => .ite (fun hc => ?_) (fun _ => .none))
      · subst hc
        exact h.doubleQuoted.map fun _ ha => ha.push (.inl rfl)
      · subst hc
        exact h.singleQuoted.map fun _ ha => ha.push (.inr rfl)

structure TagState.Reads (t : Text) (s : TagState) : Prop where
  tail : s.tail.All (Closes t)
  head : s.head.All (Anchor.Reads Href.Separated t)
  spaced : Each (Anchor.Reads (fun f => Href.Named ['h', 'r', 'e', 'f'] f ∨ Href.Separated f) t) s.spaced
  link : s.link.Reads t
  name : Each (Anchor.Reads Href.InTag t) s.name

lemma TagState.Reads.none (t : Text) : TagState.none.Reads t :=
  ⟨.none _, .none _, .none, .none t, .none⟩

lemma TagState.Reads.tailNext {c : Char} {t : Text} {s : TagState} (h : s.Reads t) :
    Each (Closes (c :: t)) (TagState.tailNext c s.tail) := by
  refine .ite (fun _ => h.tail.next.map fun _ => Closes.cons) (fun _ => ?_)
  refine .ite (fun hc => ?_) (fun _ => ?_)
  · subst hc
    exact .some (.bracket t)
  · exact .ite (fun _ => h.tail.name.map fun _ => Closes.cons) (fun _ => .none)

lemma TagState.Reads.step {c : Char} {t : Text} {s : TagState} (h : s.Reads t) :
    (s.step c).Reads (c :: t) := by
  have hlink : (s.step c).link.Reads (c :: t) := h.link.step h.tail.next (fun _ => true) c
  have hgap : Each (Anchor.Reads Href.Separated (c :: t))
      (if Attribute.isSeparator c then s.spaced.map (Anchor.push c) else .none) := by
    refine .ite (fun hc => ?_) (fun _ => .none)
    refine h.spaced.map fun _ ha => ha.push fun f hf => ?_
    rcases hf with hf | hf
    · exact hf.separated hc
    · exact hf.cons c
  refine ⟨h.tail.step h.tailNext fun _ => Closes.cons,
    h.head.step hgap fun _ ha => ha.push fun _ hf => hf.cons c, ?_, hlink, ?_⟩
  · refine .ite (fun _ => hgap.imp fun _ ha => ha.imp fun _ => .inr) (fun _ => ?_)
    refine (hlink.start.imp fun _ ha => ha.imp fun _ => .inl).orElse ?_
    refine .ite (fun _ => ?_) (fun _ => .none)
    exact h.head.name.map fun _ ha => ha.push fun _ hf => .inr (hf.cons c)
  · refine .ite (fun hc => ?_) (fun _ => .none)
    exact h.head.next.map fun _ ha => ha.push fun f hf => ⟨c, f, hc, hf, rfl⟩

structure PlainState.Reads (t : Text) (s : PlainState) : Prop where
  tail : Each (Closes t) s.tail
  skip : Each (Anchor.Reads Href.Separated t) s.skip
  link : s.link.Reads t
  gap : Each (Anchor.Reads Href.Separated t) s.gap
  name : Each (Anchor.Reads Href.InTag t) s.name

lemma PlainState.Reads.none (t : Text) : PlainState.none.Reads t :=
  ⟨.none, .none, .none t, .none, .none⟩

lemma Attribute.isSeparator_of_isBlank {c : Char} (h : Text.isBlank c = true) :
    Attribute.isSeparator c = true := by
  rw [Attribute.isSeparator, h, Bool.true_or]

lemma PlainState.Reads.step {c : Char} {t : Text} {s : PlainState} (h : s.Reads t) :
    (s.step c).Reads (c :: t) := by
  have hstart (hc : Text.isBlank c = true) :
      Each (Anchor.Reads Href.Separated (c :: t)) (s.link.start.map (Anchor.push c)) :=
    h.link.start.map fun _ ha => ha.push fun _ hf =>
      hf.separated (Attribute.isSeparator_of_isBlank hc)
  have hskip : Each (Anchor.Reads Href.Separated (c :: t)) (s.skip.map (Anchor.push c)) :=
    h.skip.map fun _ ha => ha.push fun _ hf => hf.cons c
  refine ⟨?_, ?_, h.link.step h.tail (fun c => c ≠ '<' && c ≠ '>') c, ?_, ?_⟩
  · refine .ite (fun hc => ?_) (fun _ => h.tail.map fun _ => Closes.cons)
    subst hc
    exact .some (.bracket t)
  · exact (Each.ite hstart fun _ => .none).orElse (.ite (fun _ => .none) fun _ => hskip)
  · refine .ite (fun hc => ?_) (fun _ => .none)
    cases hs : s.skip with
    | none => exact hstart hc
    | some a =>
      rw [hs] at hskip
      exact hskip
  · refine .ite (fun hc => ?_) (fun _ => .none)
    exact h.gap.map fun _ ha => ha.push fun f hf => ⟨c, f, hc, hf, rfl⟩

structure PageState.Reads (t : Text) (s : PageState) : Prop where
  tag : s.tag.Reads t
  plain : s.plain.Reads t
  anchor : Each (Anchor.Reads Href.InAnchor t) s.anchor

lemma PageState.Reads.step {c : Char} {t : Text} {s : PageState} (h : s.Reads t) :
    (s.step c).Reads (c :: t) := by
  have hname : Each (Anchor.Reads Href.InTag t) s.anchor? := by
    unfold PageState.anchor?
    cases hn : s.tag.name with
    | none => exact .none
    | some a => exact .ite (fun _ => h.plain.name) fun _ => .some (h.tag.name a hn)
  refine ⟨h.tag.step, h.plain.step, .ite (fun hc => ?_) fun _ => .none⟩
  subst hc
  exact hname.map fun _ ha => ha.push fun f hf => ⟨f, hf, rfl⟩

theorem PageState.reads_of (t : Text) : (PageState.of t).Reads t := by
  induction t with
  | nil => exact ⟨.none [], .none [], .none⟩
  | cons c t ih => exact ih.step

/-- Every anchor that is read stands at the place where it was read and holds a quoted `href`. -/
theorem Anchor.reads_of_read? {t : Text} {a : Anchor} (h : Anchor.read? t = some a) :
    a.Reads Href.InAnchor t := (PageState.reads_of t).anchor a h

lemma Anchor.exists_text_cons {t : Text} {a : Anchor} (h : Anchor.read? t = some a) :
    ∃ rest, a.text = '<' :: rest := by
  obtain ⟨f, q, ⟨g, hg, rfl⟩, hq, hb, hrest⟩ := (Anchor.reads_of_read? h).quoted
  refine ⟨g ++ [q] ++ a.link ++ a.after, ?_⟩
  simp only [Anchor.text, hb, List.cons_append]

namespace Page

/-- The first part of the fold is what can be read at the head. -/
lemma fst_foldr {f : Char → PageState × List (Char × Option Anchor) → PageState × List _}
    (hf : ∀ c p, (f c p).1 = PageState.step c p.1) (t : Text) :
    (t.foldr f (PageState.none, [])).1 = PageState.of t := by
  induction t with
  | nil => rfl
  | cons c t ih =>
    rw [List.foldr_cons, hf, ih]
    rfl

lemma marks_cons (c : Char) (t : Text) :
    marks (c :: t) = (c, Anchor.read? (c :: t)) :: marks t := by
  change (c, (PageState.step c (Prod.fst (List.foldr _ _ t))).anchor) :: marks t = _
  rw [fst_foldr fun _ _ => rfl]
  rfl

lemma cut_marks (skip : Nat) (t : Text) : cut skip (marks t) = pieces (t.drop skip) := by
  induction t generalizing skip with
  | nil => cases skip <;> rfl
  | cons c t ih =>
    cases skip with
    | zero => rfl
    | succ skip =>
      rw [marks_cons, cut, List.drop_succ_cons]
      exact ih skip

@[simp] lemma pieces_nil : pieces [] = [] := rfl

lemma pieces_char {c : Char} {t : Text} (h : Anchor.read? (c :: t) = none) :
    pieces (c :: t) = .char c :: pieces t := by
  unfold pieces
  rw [marks_cons, h, cut]

lemma pieces_anchor {a : Anchor} {t : Text} (h : Anchor.read? (a.text ++ t) = some a) :
    pieces (a.text ++ t) = .anchor a :: pieces t := by
  obtain ⟨rest, hrest⟩ := Anchor.exists_text_cons h
  have hdrop : (rest ++ t).drop (a.text.length - 1) = t := by
    rw [hrest, List.length_cons, Nat.add_sub_cancel, List.drop_left]
  rw [hrest, List.cons_append] at h ⊢
  change cut 0 (marks ('<' :: (rest ++ t))) = _
  rw [marks_cons, h, cut, cut_marks, hdrop]

/-- A page is empty, or begins with a character at which no anchor begins, or with an anchor. -/
theorem induction {motive : Text → Prop} (nil : motive [])
    (char : ∀ c t, Anchor.read? (c :: t) = none → motive t → motive (c :: t))
    (anchor : ∀ a t, Anchor.read? (a.text ++ t) = some a → motive t → motive (a.text ++ t))
    (t : Text) : motive t := by
  induction hn : t.length using Nat.strongRecOn generalizing t with
  | ind n ih =>
    cases t with
    | nil => exact nil
    | cons c t =>
      cases h : Anchor.read? (c :: t) with
      | none => exact char c t h (ih t.length (by simp [← hn]) t rfl)
      | some a =>
        obtain ⟨rest, hrest⟩ := (Anchor.reads_of_read? h).begins
        obtain ⟨text, htext⟩ := Anchor.exists_text_cons h
        rw [← hrest] at h ⊢
        refine anchor a rest h (ih rest.length ?_ rest rfl)
        rw [← hn, ← hrest, htext]
        simp only [List.length_append, List.length_cons]
        omega

/-- The pieces put together again are the page. -/
theorem flatMap_text_pieces (t : Text) : (pieces t).flatMap Piece.text = t := by
  induction t using Page.induction with
  | nil => rfl
  | char c t h ih => rw [pieces_char h, List.flatMap_cons, ih, Piece.text, List.singleton_append]
  | anchor a t h ih => rw [pieces_anchor h, List.flatMap_cons, ih, Piece.text]

lemma length_pieces_le (t : Text) : (pieces t).length ≤ t.length := by
  induction t using Page.induction with
  | nil => exact Nat.le_refl 0
  | char c t h ih =>
    rw [pieces_char h, List.length_cons, List.length_cons]
    exact Nat.succ_le_succ ih
  | anchor a t h ih =>
    obtain ⟨text, htext⟩ := Anchor.exists_text_cons h
    rw [pieces_anchor h, htext, List.length_cons, List.length_append, List.length_cons]
    omega

/-- The anchors of a page. -/
def anchors (t : Text) : List Anchor :=
  (pieces t).filterMap fun
    | .anchor a => some a
    | .char _ => none

end Page

end AffiliateLinks
