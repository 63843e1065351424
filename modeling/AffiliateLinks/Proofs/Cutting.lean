import AffiliateLinks.Text.Basic
import Mathlib.Tactic.Lemma

/-!
# Cutting and joining texts

A text is cut at the first separator, or at all of them. The parts determine the text, and cutting
undoes joining for parts that hold no separator.
-/

namespace AffiliateLinks.Text

variable {c sep : Char} {t a b p : Text} {ps : List Text}

theorem cut?_eq_some_iff : cut? sep t = some (a, b) ↔ t = a ++ sep :: b ∧ sep ∉ a := by
  induction t generalizing a with
  | nil => simp [cut?]
  | cons c t ih =>
    by_cases hc : c = sep
    · subst hc
      simp only [cut?, if_true, Option.some.injEq, Prod.mk.injEq]
      constructor
      · rintro ⟨rfl, rfl⟩
        exact ⟨rfl, List.not_mem_nil⟩
      · rintro ⟨ht, ha⟩
        cases a with
        | nil => exact ⟨rfl, (List.cons.inj ht).2⟩
        | cons d a =>
          have hd := (List.cons.inj ht).1
          subst hd
          exact absurd List.mem_cons_self ha
    · simp only [cut?, hc, if_false, Option.map_eq_some_iff, Prod.mk.injEq, Prod.exists]
      constructor
      · rintro ⟨a', b', h, rfl, rfl⟩
        obtain ⟨rfl, ha⟩ := ih.1 h
        exact ⟨rfl, by simp [Ne.symm hc, ha]⟩
      · rintro ⟨ht, ha⟩
        cases a with
        | nil => exact absurd (List.cons.inj ht).1 hc
        | cons d a =>
          obtain ⟨rfl, htail⟩ := List.cons.inj ht
          exact ⟨a, b, ih.2 ⟨htail, fun h => ha (List.mem_cons_of_mem _ h)⟩, rfl, rfl⟩

theorem cut?_eq_none_iff : cut? sep t = none ↔ sep ∉ t := by
  constructor
  · intro h hm
    obtain ⟨a, b, rfl, ha⟩ := List.eq_append_cons_of_mem hm
    rw [cut?_eq_some_iff.2 ⟨rfl, ha⟩] at h
    cases h
  · intro h
    cases hc : cut? sep t with
    | none => rfl
    | some p =>
      obtain ⟨rfl, _⟩ := cut?_eq_some_iff.1 hc
      exact absurd (List.mem_append_right _ List.mem_cons_self) h

lemma split_cons_self (t : Text) : split sep (sep :: t) = [] :: split sep t := by
  rw [split, if_pos rfl]

lemma split_cons_of_ne (h : c ≠ sep) (ht : split sep t = p :: ps) :
    split sep (c :: t) = (c :: p) :: ps := by
  rw [split, if_neg h, ht]

/-- The pieces hold characters of the text, and none of them is a separator. -/
theorem mem_of_mem_split (hp : p ∈ split sep t) (hc : c ∈ p) : c ∈ t ∧ c ≠ sep := by
  induction t generalizing p with
  | nil =>
    rw [split_nil, List.mem_singleton] at hp
    subst hp
    cases hc
  | cons d t ih =>
    by_cases hd : d = sep
    · subst hd
      rw [split_cons_self] at hp
      rcases List.mem_cons.1 hp with rfl | hp
      · cases hc
      · obtain ⟨hm, hne⟩ := ih hp hc
        exact ⟨List.mem_cons_of_mem _ hm, hne⟩
    · cases hs : split sep t with
      | nil => exact absurd hs (split_ne_nil sep t)
      | cons q qs =>
        rw [split_cons_of_ne hd hs] at hp
        have htail {p : Text} (hp : p ∈ q :: qs) (hc : c ∈ p) : c ∈ d :: t ∧ c ≠ sep := by
          rw [← hs] at hp
          obtain ⟨hm, hne⟩ := ih hp hc
          exact ⟨List.mem_cons_of_mem _ hm, hne⟩
        rcases List.mem_cons.1 hp with rfl | hp
        · rcases List.mem_cons.1 hc with rfl | hc
          · exact ⟨List.mem_cons_self, hd⟩
          · exact htail List.mem_cons_self hc
        · exact htail (List.mem_cons_of_mem _ hp) hc

lemma split_of_not_mem (h : sep ∉ t) : split sep t = [t] := by
  induction t with
  | nil => rfl
  | cons c t ih =>
    rw [List.mem_cons, not_or] at h
    exact split_cons_of_ne (Ne.symm h.1) (ih h.2)

lemma split_append_cons (h : sep ∉ a) (b : Text) : split sep (a ++ sep :: b) = a :: split sep b := by
  induction a with
  | nil => exact split_cons_self b
  | cons c a ih =>
    rw [List.mem_cons, not_or] at h
    exact split_cons_of_ne (Ne.symm h.1) (ih h.2)

/-- Cutting the parts on either side of a separator cuts the whole. -/
lemma split_append (sep : Char) (a b : Text) :
    split sep (a ++ sep :: b) = split sep a ++ split sep b := by
  induction a with
  | nil => exact split_cons_self b
  | cons c a ih =>
    by_cases hc : c = sep
    · subst hc
      simp [split_cons_self, ih]
    · cases hs : split sep a with
      | nil => exact absurd hs (split_ne_nil sep a)
      | cons q qs =>
        rw [hs, List.cons_append] at ih
        rw [List.cons_append, split_cons_of_ne hc ih, split_cons_of_ne hc hs, List.cons_append]

lemma join_append (hne : ps ≠ []) {qs : List Text} (hqs : qs ≠ []) :
    join sep (ps ++ qs) = join sep ps ++ sep :: join sep qs := by
  obtain ⟨q, qs, rfl⟩ := List.exists_cons_of_ne_nil hqs
  induction ps with
  | nil => exact absurd rfl hne
  | cons p ps ih =>
    cases ps with
    | nil => rfl
    | cons p' ps => simpa [join] using ih (List.cons_ne_nil _ _)

theorem split_join (hne : ps ≠ []) (h : ∀ p ∈ ps, sep ∉ p) : split sep (join sep ps) = ps := by
  induction ps with
  | nil => exact absurd rfl hne
  | cons p ps ih =>
    cases ps with
    | nil => exact split_of_not_mem (h p List.mem_cons_self)
    | cons q qs =>
      rw [join, split_append_cons (h p List.mem_cons_self),
        ih (List.cons_ne_nil _ _) fun p hp => h p (List.mem_cons_of_mem _ hp)]

theorem mem_join (h : c ∈ join sep ps) : c = sep ∨ ∃ p ∈ ps, c ∈ p := by
  induction ps with
  | nil => cases h
  | cons p ps ih =>
    cases ps with
    | nil => exact .inr ⟨p, List.mem_cons_self, h⟩
    | cons q qs =>
      rw [join, List.mem_append, List.mem_cons] at h
      rcases h with h | h | h
      · exact .inr ⟨p, List.mem_cons_self, h⟩
      · exact .inl h
      · rcases ih h with h | ⟨r, hr, hc⟩
        · exact .inl h
        · exact .inr ⟨r, List.mem_cons_of_mem _ hr, hc⟩

lemma before?_eq_some_iff {r : Text} : before? p t = some r ↔ t = r ++ p := by
  unfold before?
  constructor
  · intro h
    obtain ⟨back, hback, rfl⟩ := Option.map_eq_some_iff.1 h
    have hrev := congrArg List.reverse (after?_eq_some_iff.1 hback)
    simpa using hrev
  · rintro rfl
    have hback : after? p.reverse (r ++ p).reverse = some r.reverse :=
      after?_eq_some_iff.2 List.reverse_append
    rw [hback, Option.map_some, List.reverse_reverse]

section ends

variable {f : Char → Bool}

lemma dropWhile_eq_self (h : ∀ c ∈ t, f c = false) : t.dropWhile f = t := by
  cases t with
  | nil => rfl
  | cons c t => rw [List.dropWhile_cons, h c List.mem_cons_self, if_neg Bool.false_ne_true]

/-- Taking characters away at the end keeps a beginning that holds none of them. -/
lemma prefix_dropEnd (h : ∀ c ∈ p, f c = false) (rest : Text) :
    p <+: ((p ++ rest).reverse.dropWhile f).reverse := by
  have hp : p.reverse.dropWhile f = p.reverse :=
    dropWhile_eq_self fun c hc => h c (List.mem_reverse.1 hc)
  rw [List.reverse_append, List.dropWhile_append]
  split
  · exact ⟨[], by rw [List.append_nil, hp, List.reverse_reverse]⟩
  · rw [List.reverse_append, List.reverse_reverse]
    exact List.prefix_append _ _

end ends

lemma trimEnd_prefix (t : Text) : trimEnd t <+: t := by
  have h := List.dropWhile_suffix isBlank (l := t.reverse)
  rw [← List.reverse_prefix, List.reverse_reverse] at h
  exact h

lemma trim_prefix (t : Text) : trim t <+: trimStart t := trimEnd_prefix _

/-- A text without white space is trimmed. -/
theorem trim_eq_self (h : ∀ c ∈ t, isBlank c = false) : trim t = t := by
  rw [trim, trimStart, dropWhile_eq_self h, trimEnd,
    dropWhile_eq_self fun c hc => h c (List.mem_reverse.1 hc), List.reverse_reverse]

/-- A beginning without white space stays when the text is trimmed. -/
lemma prefix_trim (hne : p ≠ []) (h : ∀ c ∈ p, isBlank c = false) (rest : Text) :
    p <+: trim (p ++ rest) := by
  have hstart : trimStart (p ++ rest) = p ++ rest := by
    obtain ⟨c, p, rfl⟩ := List.exists_cons_of_ne_nil hne
    have hc := h c List.mem_cons_self
    rw [trimStart, List.cons_append, List.dropWhile_cons, hc, if_neg Bool.false_ne_true]
  rw [trim, hstart]
  exact prefix_dropEnd h rest

end AffiliateLinks.Text
