import AffiliateLinks.Proofs.Cutting
import AffiliateLinks.Proofs.Splice
import AffiliateLinks.Proofs.TagReading

/-!
# Attributes in the text of a tag

The attributes are read from the text of a tag one after the other: white space, a name, and perhaps
a value, which is read as it was written between its quotes, whatever it holds. What closes the tag
holds no attribute.
-/

namespace AffiliateLinks

namespace Attribute

variable {t : Text}

lemma afterEquals?_eq_none (h : (t.dropWhile Text.isBlank).head? ≠ some '=') :
    afterEquals? t = none := by
  unfold afterEquals?
  split
  · next r hr => exact absurd (by rw [hr, List.head?_cons]) h
  · rfl

/-- What comes after the white space around an equals sign. -/
lemma afterEquals?_sign {left right : Text} (hleft : Href.Blank left) (hright : Href.Blank right)
    {c : Char} (hc : Text.isBlank c = false) (t : Text) :
    afterEquals? (left ++ '=' :: (right ++ c :: t)) = some (c :: t) := by
  rw [afterEquals?, dropWhile_blank_append hleft, List.dropWhile_cons_of_neg (by decide)]
  change some ((right ++ c :: t).dropWhile Text.isBlank) = _
  rw [dropWhile_blank_append hright,
    List.dropWhile_cons_of_neg (by rw [hc]; exact Bool.false_ne_true)]

lemma value?_written (v : QuotedValue) (t : Text) : value? (v.written ++ t) = some (v.text, t) := by
  obtain ⟨left, right, q, text, hleft, hright, hq, htext⟩ := v
  have hblank : Text.isBlank q = false := by rcases hq with rfl | rfl <;> decide
  have hcut : Text.cut? q (text ++ q :: t) = some (text, t) :=
    Text.cut?_eq_some_iff.2 ⟨rfl, htext⟩
  simp only [QuotedValue.written, QuotedValue.sign, QuotedValue.quoted, List.append_assoc,
    List.cons_append, List.nil_append]
  rw [value?, afterEquals?_sign hleft hright hblank]
  rcases hq with rfl | rfl
  · exact hcut
  · exact hcut

lemma readAll_skip {front : Text} (h : ∀ c ∈ front, startsName c = false) (t : Text) :
    readAll (front ++ t) = readAll t := by
  induction front with
  | nil => rfl
  | cons c front ih =>
    rw [List.cons_append, readAll, if_neg (by rw [h c List.mem_cons_self]; exact Bool.false_ne_true),
      ih fun d hd => h d (List.mem_cons_of_mem _ hd)]

lemma startsName_of_isSeparator {c : Char} (h : isSeparator c = true) : startsName c = false := by
  rw [startsName, continuesName_of_isSeparator h, Bool.false_and, Bool.false_and]

/-- Separators before the closing bracket hold no attribute. -/
lemma readAll_closing {closing : Text} (h : ∀ c ∈ closing, isSeparator c = true) :
    readAll (closing ++ ['>']) = [] := by
  rw [readAll_skip fun c hc => startsName_of_isSeparator (h c hc), readAll, if_neg (by decide), readAll]

/-- White space, a name and perhaps a value are read as one attribute. -/
lemma readAll_named {gap name : Text} (hgap : Href.Blank gap) (hname : IsName name)
    (ht : ∃ c r, t = c :: r ∧ continuesName c = false) :
    readAll (gap ++ (name ++ t)) =
      ⟨name, (value? t).map Prod.fst⟩ :: readAll ((value? t).elim t Prod.snd) := by
  obtain ⟨n, name, rfl, hstart, _, hchars⟩ := hname.exists_cons
  have hdrop := dropWhile_name hchars ht
  rw [readAll_skip fun c hc => startsName_of_isSeparator (isSeparator_of_isBlank (hgap c hc)),
    List.cons_append, readAll, if_pos hstart]
  simp only [takeWhile_name hchars ht, hdrop]
  split
  · next v r hr =>
    rw [hdrop] at hr
    rw [hr]
    rfl
  · next hr =>
    rw [hdrop] at hr
    rw [hr]
    rfl

end Attribute

/-- White space and perhaps a slash may close a tag. -/
lemma Href.Blank.isSeparator_closing {space : Text} (h : Blank space) (slash : Bool) :
    ∀ c ∈ space ++ if slash then ['/'] else [], Attribute.isSeparator c = true := by
  intro c hc
  rcases List.mem_append.1 hc with hc | hc
  · exact Attribute.isSeparator_of_isBlank (h c hc)
  · split at hc
    · rw [List.mem_singleton.1 hc]
      decide
    · cases hc

/-- The attributes begin after the name of one letter. -/
lemma Tag.attributes_cons {c : Char} (h : c.toLower = 'a') (rest : Text) :
    attributes ('<' :: c :: rest) = Attribute.readAll rest := by
  have hsize : c.utf8Size = 1 := by
    rcases Splice.eq_a_of_toLower h with rfl | rfl <;> decide
  have hdrop : dropBytes? 2 ('<' :: c :: rest) = some rest := by
    change (if 1 ≤ 2 then dropBytes? 1 (c :: rest) else none) = _
    rw [if_pos (by decide), dropBytes?, hsize, if_pos (Nat.le_refl 1), dropBytes?]
  rw [attributes, hdrop, Option.getD_some]

end AffiliateLinks
