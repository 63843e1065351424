import AffiliateLinks.Markup.Monetize
import AffiliateLinks.Proofs.Documents
import AffiliateLinks.Proofs.Splice
import Mathlib.Data.List.Infix

/-!
# Texts in front of a page

What is read at a place of a page depends on what follows that place. So a text that begins no anchor
may stand in front of a page, whatever quotes and brackets it leaves open: it is copied, and the page
behind it is monetized as if it stood alone. A disclosure is such a text.
-/

namespace AffiliateLinks

/-- No bracket in the text has the letter of an anchor right behind it. -/
structure NamesNoAnchor (t : Text) : Prop where
  small : ¬['<', 'a'] <:+: t
  capital : ¬['<', 'A'] <:+: t

instance (t : Text) : Decidable (NamesNoAnchor t) :=
  decidable_of_iff (¬['<', 'a'] <:+: t ∧ ¬['<', 'A'] <:+: t)
    ⟨fun h => ⟨h.1, h.2⟩, fun h => ⟨h.small, h.capital⟩⟩

namespace NamesNoAnchor

variable {front html s : Text} {c : Char}

lemma toLower_ne (h : NamesNoAnchor front) (hs : '<' :: c :: s <:+ front) : c.toLower ≠ 'a' := by
  intro hc
  have hfirst : ['<', c] <+: '<' :: c :: s := ⟨s, rfl⟩
  have hinfix : ['<', c] <:+: front := hfirst.isInfix.trans hs.isInfix
  rcases Splice.eq_a_of_toLower hc with rfl | rfl
  · exact h.small hinfix
  · exact h.capital hinfix

/-- No anchor begins in the text. A bracket at its end is harmless when nothing follows. -/
lemma read?_eq_none (h : NamesNoAnchor front) (hend : front.getLast? = some '<' → html = [])
    (hs : c :: s <:+ front) : Anchor.read? (c :: (s ++ html)) = none := by
  apply Anchor.read?_eq_none
  by_cases hc : c = '<'
  · subst hc
    cases s with
    | nil =>
      obtain ⟨before, rfl⟩ := hs
      rw [hend (List.getLast?_concat)]
      rfl
    | cons d s => exact opensAnchor_of_letter (h.toLower_ne hs) '<' (s ++ html)
  · exact opensAnchor_cons_of_ne hc _

lemma pieces_append (h : NamesNoAnchor front) (hend : front.getLast? = some '<' → html = []) :
    Page.pieces (front ++ html) = front.map .char ++ Page.pieces html := by
  apply Page.pieces_append_of_suffix
  intro c s hs
  exact h.read?_eq_none hend hs

end NamesNoAnchor

namespace MonetizedPage

variable {config : Config} {brand : Option Text} {front html : Text}

/-- The page with a text in front of it. -/
def behind (front : Text) (page : MonetizedPage) : MonetizedPage := ⟨front ++ page.html, page.links⟩

lemma ofPieces_chars (front : Text) (ps : List Piece) :
    ofPieces config brand (front.map .char ++ ps) = behind front <$> ofPieces config brand ps := by
  induction front with
  | nil => rfl
  | cons c front ih =>
    rw [List.map_cons, List.cons_append, ofPieces, ih]
    rfl

/-- The first run went over the page of the second one with a text in front of it. It copied the text
and did nothing else that the second one did not do. -/
structure IsBehind (front : Text) (whole alone : Logged MonetizedPage) : Prop where
  html : whole.value.html = front ++ alone.value.html
  links : whole.value.links = alone.value.links
  tally : whole.value.tally = alone.value.tally
  log : whole.log = alone.log

lemma isBehind_ofHtml (h : NamesNoAnchor front) (hend : front.getLast? = some '<' → html = []) :
    IsBehind front (ofHtml (front ++ html) config brand) (ofHtml html config brand) := by
  unfold ofHtml
  rw [h.pieces_append hend, ofPieces_chars]
  exact ⟨rfl, rfl, rfl, rfl⟩

/-- A text that names no anchor and ends with no bracket changes nothing in the page behind it. So a
disclosure leaves the links of its page alone, and a page that names no anchor stays as it is. -/
theorem ofHtml_behind (config : Config) (brand : Option Text) :
    (∀ front html : Text, NamesNoAnchor front → front.getLast? ≠ some '<' →
      IsBehind front (ofHtml (front ++ html) config brand) (ofHtml html config brand)) ∧
    (∀ (d : Disclosure) (html : Text),
      IsBehind d.html (ofHtml (d.html ++ html) config brand) (ofHtml html config brand)) ∧
    ∀ html : Text, NamesNoAnchor html → (ofHtml html config brand).value = ⟨html, []⟩ := by
  refine ⟨fun front html h hend => isBehind_ofHtml h fun hlast => absurd hlast hend,
    fun d html => ?_, fun html h => ?_⟩
  · have hdisclosure : NamesNoAnchor d.html ∧ d.html.getLast? ≠ some '<' := by
      cases d with
      | short => decide +kernel
      | long =>
        unfold Disclosure.html Disclosure.text
        simp only [String.toList_append]
        decide +kernel
    exact isBehind_ofHtml hdisclosure.1 fun hlast => absurd hlast hdisclosure.2
  · have halone : IsBehind html (ofHtml (html ++ []) config brand) (ofHtml [] config brand) :=
      isBehind_ofHtml h fun _ => rfl
    rw [List.append_nil] at halone
    have hhtml : (ofHtml html config brand).value.html = html := halone.html.trans (List.append_nil _)
    have hlinks : (ofHtml html config brand).value.links = [] := halone.links
    generalize (ofHtml html config brand).value = page at hhtml hlinks ⊢
    obtain ⟨written, links⟩ := page
    simp only at hhtml hlinks
    rw [hhtml, hlinks]

/-- An open quote and an open tag in front of a page keep no link from being found. -/
theorem ofHtml_behind_open_quote :
    let front := "<p title=\"it's <b>< a href='".toList
    let html := "<a href=\"https://amazon.com/x\">x</a>' \">".toList
    let config := Config.ofTag "site-20".toList
    NamesNoAnchor front ∧ front.getLast? ≠ some '<' ∧
      (ofHtml (front ++ html) config none).value.html = front ++
        "<a href=\"https://amazon.com/x?tag=site-20\" rel=\"nofollow sponsored\">x</a>' \">".toList ∧
      (ofHtml front config none).value = ⟨front, []⟩ := by
  intro front html config
  have hfront : NamesNoAnchor front ∧ front.getLast? ≠ some '<' := by decide +kernel
  obtain ⟨hbehind, -, hnone⟩ := ofHtml_behind config none
  refine ⟨hfront.1, hfront.2, ?_, hnone front hfront.1⟩
  rw [(hbehind front html hfront.1 hfront.2).html]
  decide +kernel

end MonetizedPage

end AffiliateLinks
