import AffiliateLinks.Proofs.TagReading

/-!
# Reading a tag up to its first bracket

An anchor that runs into another tag is read again, up to its first closing bracket and without regard
to quotes: any `href` that white space precedes is a candidate for its link. Main statement: the first
candidate is taken, and one right after the name only when there is no other.
-/

namespace AffiliateLinks

/-- An `href` with a quoted value without brackets, before a closing bracket. -/
def Href.Plain (t : Text) : Prop :=
  ∃ front q link rest, Named ['h', 'r', 'e', 'f'] front ∧ isQuote q ∧ q ∉ link ∧ '<' ∉ link ∧
    '>' ∉ link ∧ '>' ∈ rest ∧ t = front ++ q :: (link ++ q :: rest)

namespace Href

variable {l l' f f' : Text} {b b' : Char}

/-- White space in a named `href` comes after the name. -/
lemma Named.blank_or_sign (h : Named ['h', 'r', 'e', 'f'] (l ++ b :: f))
    (hb : Text.isBlank b = true) : ∀ c ∈ f, Text.isBlank c = true ∨ c = '=' := by
  obtain ⟨name, _, hname, ⟨left, right, hleft, hright, rfl⟩, h⟩ := h
  have hsign : ∀ c ∈ left ++ '=' :: right, Text.isBlank c = true ∨ c = '=' := by
    intro c hc
    rcases List.mem_append.1 hc with hc | hc
    · exact .inl (hleft c hc)
    · exact (List.mem_cons.1 hc).elim .inr fun hc => .inl (hright c hc)
  intro c hc
  rcases List.append_eq_append_iff.1 h with ⟨u, hu, hf⟩ | ⟨u, hu, hf⟩
  · cases u with
    | nil => exact hsign c (hf ▸ List.mem_cons_of_mem b hc)
    | cons d u =>
      have hd : d ∈ name := hu ▸ List.mem_append_right _ List.mem_cons_self
      have hdb := isBlank_of_isNameChar (isNameChar_of_lower_eq_href hname d hd)
      rw [← (List.cons.inj hf).1, hb] at hdb
      cases hdb
  · exact hsign c (hf ▸ List.mem_append_right _ (List.mem_cons_of_mem b hc))

/-- No second one stands inside of it. -/
lemma Named.not_named (h : Named ['h', 'r', 'e', 'f'] (l ++ b :: f)) (hb : Text.isBlank b = true) :
    ¬Named ['h', 'r', 'e', 'f'] f := by
  rintro ⟨name, sign, hname, _, rfl⟩
  obtain ⟨c, name, rfl, _⟩ := List.map_eq_cons_iff.1 hname
  have hc := isNameChar_of_lower_eq_href hname c List.mem_cons_self
  rcases h.blank_or_sign hb c List.mem_cons_self with hblank | rfl
  · rw [isBlank_of_isNameChar hc] at hblank
    cases hblank
  · exact absurd hc (by decide)

/-- A text ends with at most one named `href` after white space. -/
lemma Named.eq_of_append (hf : Named ['h', 'r', 'e', 'f'] f) (hb : Text.isBlank b = true)
    (hf' : Named ['h', 'r', 'e', 'f'] f') (hb' : Text.isBlank b' = true)
    (h : l ++ b :: f = l' ++ b' :: f') : l = l' := by
  rcases List.append_eq_append_iff.1 h with ⟨u, hu, heq⟩ | ⟨u, hu, heq⟩
  · cases u with
    | nil => rw [hu, List.append_nil]
    | cons c u => exact absurd hf' (Named.not_named ((List.cons.inj heq).2 ▸ hf) hb')
  · cases u with
    | nil => rw [hu, List.append_nil]
    | cons c u => exact absurd hf (Named.not_named ((List.cons.inj heq).2 ▸ hf') hb)

lemma Named.bracket_not_mem (h : Named ['h', 'r', 'e', 'f'] f) : '>' ∉ f := by
  obtain ⟨name, _, hname, ⟨left, right, hleft, hright, rfl⟩, rfl⟩ := h
  rw [List.mem_append, List.mem_append, List.mem_cons, not_or, not_or, not_or]
  exact ⟨not_mem_of_isNameChar (isNameChar_of_lower_eq_href hname) (by decide),
    hleft.not_mem (by decide), by decide, hright.not_mem (by decide)⟩

end Href

/-- One condition for every place in a link. -/
structure LinkState.All (P : Anchor → Prop) (s : LinkState) : Prop where
  start : Each P s.start
  ref : Each P s.ref
  ef : Each P s.ef
  f : Each P s.f
  equals : Each P s.equals
  value : Each P s.value
  doubleQuoted : Each P s.doubleQuoted
  singleQuoted : Each P s.singleQuoted

lemma LinkState.All.step {P : Anchor → Prop} {s : LinkState} {allowed : Char → Bool}
    {after : Option Text} {c : Char} (h : s.All P) (hpush : ∀ c x, P x → P (x.push c))
    (hlink : ∀ x, allowed c = true → P x → P (x.pushLink c))
    (hafter : ∀ q, Each (fun y => P (.closing q y)) after) : (s.step allowed after c).All P := by
  have hletter {o : Option Anchor} (l : Char) (ho : Each P o) : Each P (letter l c o) :=
    .ite (fun _ => ho.map (hpush c)) fun _ => .none
  have hquoted {o : Option Anchor} (q : Char) (ho : Each P o) : Each P
      (if c = q then after.map (Anchor.closing q)
        else if allowed c then o.map (Anchor.pushLink c) else .none) := by
    refine .ite (fun _ => (hafter q).map fun _ hy => hy) fun _ => ?_
    exact .ite (fun hc => ho.map fun x => hlink x hc) fun _ => .none
  refine ⟨hletter 'h' h.ref, hletter 'r' h.ef, hletter 'e' h.f, hletter 'f' h.equals, ?_, ?_,
    hquoted '"' h.doubleQuoted, hquoted '\'' h.singleQuoted⟩
  · refine .ite (fun _ => Each.map ?_ (hpush c)) fun _ => .none
    exact .ite (fun _ => h.equals) fun _ => h.value
  · refine .ite (fun _ => h.value.map (hpush c)) fun _ => ?_
    refine .ite (fun _ => h.doubleQuoted.map (hpush c)) fun _ => ?_
    exact .ite (fun _ => h.singleQuoted.map (hpush c)) fun _ => .none

/-- The link holds no bracket, and what follows it only the closing one. -/
structure Anchor.EndsPlain (x : Anchor) : Prop where
  link : ∀ c ∈ x.link, c ≠ '<' ∧ c ≠ '>'
  after : ∃ q y, x.after = q :: (y ++ ['>']) ∧ '>' ∉ y

namespace PageState

variable {s t : Text} {c : Char} {x : Anchor}

lemma runs_plain : LinkState.Runs (fun c => c ≠ '<' && c ≠ '>') (fun t => (of t).plain.tail)
    fun t => (of t).plain.link := fun _ _ => rfl

lemma plain_tail (h : '>' ∉ s) (t : Text) : (of (s ++ '>' :: t)).plain.tail = some (s ++ ['>']) := by
  induction s with
  | nil => rfl
  | cons c s ih =>
    rw [List.mem_cons, not_or] at h
    have hstep (t : Text) : (of (c :: t)).plain.tail = (of t).plain.tail.map (c :: ·) :=
      if_neg (Ne.symm h.1)
    rw [List.cons_append, hstep, ih h.2]
    rfl

lemma each_plain_tail (t : Text) : Each (fun y => ∃ s, y = s ++ ['>'] ∧ '>' ∉ s) (of t).plain.tail := by
  induction t with
  | nil => exact .none
  | cons c t ih =>
    refine .ite (fun hc => .some ⟨[], by rw [hc]; rfl, List.not_mem_nil⟩) fun hc => ih.map ?_
    rintro _ ⟨s, rfl, hs⟩
    exact ⟨c :: s, rfl, by rw [List.mem_cons, not_or]; exact ⟨Ne.symm hc, hs⟩⟩

lemma endsPlain_link (t : Text) : (of t).plain.link.All Anchor.EndsPlain := by
  induction t with
  | nil => exact ⟨.none, .none, .none, .none, .none, .none, .none, .none⟩
  | cons c t ih =>
    rw [of_cons]
    change ((of t).plain.link.step (fun c => c ≠ '<' && c ≠ '>') (of t).plain.tail c).All _
    refine ih.step (fun _ _ h => ⟨h.link, h.after⟩) (fun x hc h => ⟨?_, h.after⟩) fun q y hy => ?_
    · intro d hd
      rcases List.mem_cons.1 hd with rfl | hd
      · simpa using hc
      · exact h.link d hd
    · obtain ⟨s, rfl, hs⟩ := each_plain_tail t y hy
      exact ⟨fun d hd => absurd hd List.not_mem_nil, q, s, rfl, hs⟩

/-- The link that is read at a place, with what is around it. -/
lemma start_eq_some (h : (of t).plain.link.start = some x) :
    ∃ front q y, Href.Named ['h', 'r', 'e', 'f'] front ∧ isQuote q ∧ x.before = front ++ [q] ∧
      x.after = q :: (y ++ ['>']) ∧ '>' ∉ y ∧ q ∉ x.link ∧ (∀ c ∈ x.link, c ≠ '<' ∧ c ≠ '>') ∧
      x.text <+: t := by
  have hreads := (reads_of t).plain.link.start x h
  obtain ⟨front, q, hfront, hq, hbefore, hafter, hlink⟩ := hreads.quoted
  obtain ⟨hchars, p, y, hy, hbracket⟩ := (endsPlain_link t).start x h
  rw [hy, List.head?_cons, Option.some_inj] at hafter
  exact ⟨front, q, y, hfront, hq, hbefore, by rw [hy, hafter], hbracket, hlink, hchars, hreads.begins⟩

/-- A link is read where there is one. -/
theorem start_ne_none_iff : (of t).plain.link.start ≠ .none ↔ Href.Plain t := by
  constructor
  · intro h
    obtain ⟨x, hx⟩ := Option.ne_none_iff_exists'.1 h
    obtain ⟨front, q, y, hfront, hq, hbefore, hafter, _, hlink, hchars, r, rfl⟩ := start_eq_some hx
    refine ⟨front, q, x.link, y ++ '>' :: r, hfront, hq, hlink, fun hm => (hchars _ hm).1 rfl,
      fun hm => (hchars _ hm).2 rfl, List.mem_append_right _ List.mem_cons_self, ?_⟩
    simp only [Anchor.text, hbefore, hafter, List.append_assoc, List.cons_append, List.nil_append]
  · rintro ⟨_, q, link, rest, ⟨name, _, hname, ⟨left, right, hleft, hright, rfl⟩, rfl⟩, hq, hlink, hopen,
      hclose, hrest, rfl⟩
    let w : QuotedValue := ⟨left, right, q, link, hleft, hright, hq, hlink⟩
    have hallowed : ∀ c ∈ w.text, (fun c => c ≠ '<' && c ≠ '>') c = true := by
      intro c hc
      have hc₁ : c ≠ '<' := fun he => hopen (he ▸ hc)
      have hc₂ : c ≠ '>' := fun he => hclose (he ▸ hc)
      simp only [decide_eq_true hc₁, decide_eq_true hc₂, Bool.and_self]
    obtain ⟨y, r, rfl, hy⟩ := List.eq_append_cons_of_mem hrest
    have hstart := runs_plain.start hname w hallowed (y ++ '>' :: r)
    rw [plain_tail hy] at hstart
    simp only [w, QuotedValue.written, QuotedValue.sign, QuotedValue.quoted, List.append_assoc,
      List.cons_append, List.nil_append, Option.map_some] at hstart ⊢
    rw [hstart]
    exact Option.some_ne_none _

lemma skip_cons (c : Char) (t : Text) : (of (c :: t)).plain.skip =
    ((if Text.isBlank c then (of t).plain.link.start.map (Anchor.push c) else .none) <|>
      if c = '>' then .none else (of t).plain.skip.map (Anchor.push c)) := rfl

/-- What is skipped ends with the first white space that a link follows. -/
theorem skip_eq_some (h : (of t).plain.skip = some x) :
    ∃ l b r y, t = l ++ b :: r ∧ Text.isBlank b = true ∧ (of r).plain.link.start = some y ∧
      x = ⟨l ++ b :: y.before, y.link, y.after⟩ ∧ '>' ∉ l ∧
      ∀ l' b' r', t = l' ++ b' :: r' → Text.isBlank b' = true → Href.Plain r' →
        l.length ≤ l'.length := by
  induction t generalizing x with
  | nil => cases h
  | cons c t ih =>
    rw [skip_cons] at h
    cases hc : (if Text.isBlank c then (of t).plain.link.start.map (Anchor.push c) else .none) with
    | some z =>
      rw [hc] at h
      obtain rfl : z = x := Option.some.inj h
      split at hc
      · next hb =>
        obtain ⟨y, hy, rfl⟩ := Option.map_eq_some_iff.1 hc
        exact ⟨[], c, t, y, rfl, hb, hy, rfl, List.not_mem_nil, fun _ _ _ _ _ _ => Nat.zero_le _⟩
      · cases hc
    | none =>
      rw [hc] at h
      change (if c = '>' then Option.none else _) = _ at h
      split at h
      · cases h
      · next hne =>
        obtain ⟨x', hx', rfl⟩ := Option.map_eq_some_iff.1 h
        obtain ⟨l, b, r, y, rfl, hb, hy, rfl, hl, hfirst⟩ := ih hx'
        refine ⟨c :: l, b, r, y, rfl, hb, hy, rfl, ?_, fun l' b' r' heq hb' hr' => ?_⟩
        · rw [List.mem_cons, not_or]
          exact ⟨Ne.symm hne, hl⟩
        · cases l' with
          | nil =>
            obtain ⟨rfl, rfl⟩ := List.cons.inj heq
            rw [if_pos hb', Option.map_eq_none_iff] at hc
            exact absurd hc (start_ne_none_iff.2 hr')
          | cons c' l' =>
            exact Nat.succ_le_succ (hfirst l' b' r' (List.cons.inj heq).2 hb' hr')

/-- The same for the text before the link. -/
lemma before_of_skip (h : (of t).plain.skip = some x) :
    ∃ l b front q, Text.isBlank b = true ∧ Href.Named ['h', 'r', 'e', 'f'] front ∧
      x.before = l ++ b :: front ++ [q] ∧ ∀ l' b' r', t = l' ++ b' :: r' →
        Text.isBlank b' = true → Href.Plain r' → l.length ≤ l'.length := by
  obtain ⟨l, b, r, y, _, hb, hy, rfl, _, hfirst⟩ := skip_eq_some h
  obtain ⟨front, q, _, hfront, _, hbefore, _⟩ := start_eq_some hy
  refine ⟨l, b, front, q, hb, hfront, ?_, hfirst⟩
  rw [hbefore, List.append_assoc, List.cons_append]

lemma skip_ne_none {l r : Text} {b : Char} (hl : '>' ∉ l) (hb : Text.isBlank b = true)
    (hr : Href.Plain r) : (of (l ++ b :: r)).plain.skip ≠ .none := by
  induction l with
  | nil =>
    obtain ⟨y, hy⟩ := Option.ne_none_iff_exists'.1 (start_ne_none_iff.2 hr)
    rw [List.nil_append, skip_cons, if_pos hb, hy]
    exact Option.some_ne_none _
  | cons c l ih =>
    rw [List.mem_cons, not_or] at hl
    obtain ⟨y, hy⟩ := Option.ne_none_iff_exists'.1 (ih hl.2)
    rw [List.cons_append, skip_cons, if_neg (Ne.symm hl.1), hy]
    cases (if Text.isBlank c then _ else _ : Option Anchor) with
    | none => exact Option.some_ne_none _
    | some _ => exact Option.some_ne_none _

/-- What is read after the first white space of a tag has one closing bracket, at its end. -/
lemma brackets_of_gap (h : ((of t).plain.skip <|> (of t).plain.link.start) = some x) :
    '>' ∉ x.before ∧ (∀ c ∈ x.link, c ≠ '<' ∧ c ≠ '>') ∧
      ∃ q y, x.after = q :: (y ++ ['>']) ∧ '>' ∉ y := by
  have hstart {t : Text} {x : Anchor} (h : (of t).plain.link.start = some x) : '>' ∉ x.before ∧
      (∀ c ∈ x.link, c ≠ '<' ∧ c ≠ '>') ∧ ∃ q y, x.after = q :: (y ++ ['>']) ∧ '>' ∉ y := by
    obtain ⟨front, q, y, hfront, hq, hbefore, hafter, hy, _, hlink, _⟩ := start_eq_some h
    refine ⟨?_, hlink, q, y, hafter, hy⟩
    rw [hbefore, List.mem_append, List.mem_singleton, not_or]
    exact ⟨hfront.bracket_not_mem, by rcases hq with rfl | rfl <;> decide⟩
  cases hs : (of t).plain.skip with
  | none =>
    rw [hs] at h
    exact hstart h
  | some z =>
    rw [hs] at h
    obtain rfl : z = x := Option.some.inj h
    obtain ⟨l, b, r, y, rfl, hb, hy, rfl, hl, _⟩ := skip_eq_some hs
    obtain ⟨hbefore, hrest⟩ := hstart hy
    refine ⟨?_, hrest⟩
    have hne : '>' ≠ b := by
      rintro rfl
      exact absurd hb (by decide)
    rw [List.mem_append, List.mem_cons, not_or, not_or]
    exact ⟨hl, hne, hbefore⟩

end PageState

end AffiliateLinks
