import AffiliateLinks.Link.Method
import AffiliateLinks.Link.Monetize
import AffiliateLinks.Markup.Anchor

/-!
# Monetizing a page

Each anchor's link is classified and rewritten in its place, and a rewritten anchor that does not say
how its target relates to the page is marked as sponsored. Everything between anchors is kept. A
disclosure is the paragraph that tells the readers of a page that its links earn a commission.

A link in markup spells an ampersand by name or by number. The references are undone before the link
is looked at, and a link that had one is written back with all its ampersands spelled by name.
-/

namespace AffiliateLinks

namespace Ampersand

/-- What follows a reference whose ampersand has been read. -/
def afterReference? (t : Text) : Option Text :=
  match t with
  | '#' :: 'x' :: r | '#' :: 'X' :: r => Text.after? "26;".toList (r.dropWhile (· = '0'))
  | '#' :: r => Text.after? "38;".toList (r.dropWhile (· = '0'))
  | a :: m :: p :: ';' :: r => if Text.lower [a, m, p] = "amp".toList then some r else none
  | _ => none

theorem length_afterReference? {t r : Text} (h : afterReference? t = some r) :
    r.length < t.length := by
  have drop (s : Text) : (s.dropWhile (· = '0')).length ≤ s.length :=
    (List.dropWhile_suffix _).length_le
  unfold afterReference? at h
  split at h
  · next s =>
    have h₁ := congrArg List.length (Text.after?_eq_some_iff.1 h)
    have h₂ := drop s
    simp at h₁ ⊢
    omega
  · next s =>
    have h₁ := congrArg List.length (Text.after?_eq_some_iff.1 h)
    have h₂ := drop s
    simp at h₁ ⊢
    omega
  · next s _ _ =>
    have h₁ := congrArg List.length (Text.after?_eq_some_iff.1 h)
    have h₂ := drop s
    simp at h₁ ⊢
    omega
  · split at h
    · simp only [Option.some.injEq] at h
      simp [h]
      omega
    · simp at h
  · simp at h

def decode : Text → Text
  | [] => []
  | c :: t =>
    if c = '&' then
      match _h : afterReference? t with
      | some r => '&' :: decode r
      | none => '&' :: decode t
    else c :: decode t
  termination_by t => t.length
  decreasing_by
    · have := length_afterReference? _h
      simp only [List.length_cons]
      omega
    · simp
    · simp

def encode (t : Text) : Text := Text.replace '&' "&amp;".toList t

end Ampersand

inductive Disclosure
  | short | long
  deriving DecidableEq, Repr

namespace Disclosure

def word : Disclosure → Text
  | short => "short".toList
  | long => "long".toList

def text : Disclosure → Text
  | short =>
    "This post contains affiliate links. We may earn a commission if you make a purchase.".toList
  | long =>
    ("Disclosure: Some of the links in this article are affiliate links, which means we may earn " ++
      "a small commission if you click through and make a purchase, at no additional cost to you. " ++
      "As an Amazon Associate we earn from qualifying purchases. We only recommend products we " ++
      "believe will add value for our readers.").toList

/-- The disclosure as a paragraph to stand at the top of a page. -/
def html (d : Disclosure) : Text :=
  "<p class=\"affiliate-disclosure\"><em>".toList ++ d.text ++ "</em></p>\n".toList

/-- A style that is none of the known ones, trimmed and in lower case. -/
structure UnknownStyle where
  name : Text
  deriving DecidableEq, Repr

def UnknownStyle.message (e : UnknownStyle) : Text :=
  "unknown disclosure style '".toList ++ e.name ++ "' (expected short or long)".toList

def read (t : Text) : Except UnknownStyle Disclosure :=
  let name := Text.lower (Text.trim t)
  if name = short.word then .ok short
  else if name = long.word then .ok long
  else .error ⟨name⟩

end Disclosure

/-- The link of an anchor as it stands in the markup. A link with references is routed as the URL
that it spells and written back with references. -/
def Link.ofMarkup (value : Text) (config : Config) (brand : Option Text) : Logged Link := do
  let url := Ampersand.decode value
  let link ← Link.ofUrl url config brand
  return { link with
    original := value
    monetized :=
      if !link.method.isMonetized then value
      else if url ≠ value then Ampersand.encode link.monetized
      else link.monetized }

namespace Anchor

/-- The anchor's text with another link. -/
def withLink (a : Anchor) (link : Text) : Text := a.before ++ link ++ a.after

def rewritten (a : Anchor) (link : Link) : Text :=
  let tag := a.withLink link.monetized
  if link.method.isMonetized && !Tag.hasRel tag then Tag.addSponsoredRel tag else tag

end Anchor

def Link.describe (l : Link) : Text :=
  l.method.word ++ " link merchant=".toList ++ Quoted.text l.merchant ++ ' ' :: l.original ++
    " -> ".toList ++ l.monetized

/-- A page after its links were monetized, with the links in the order of the page. -/
structure MonetizedPage where
  html : Text
  links : List Link
  deriving DecidableEq, Repr

namespace MonetizedPage

def tally (p : MonetizedPage) : Tally := Tally.ofMethods (p.links.map Link.method)

def ofPieces (config : Config) (brand : Option Text) : List Piece → Logged MonetizedPage
  | [] => pure ⟨[], []⟩
  | .char c :: ps => (fun page => ⟨c :: page.html, page.links⟩) <$> ofPieces config brand ps
  | .anchor a :: ps => do
    let link ← Link.ofMarkup a.link config brand
    Logged.tell .debug .scan link.describe
    (fun page => ⟨a.rewritten link ++ page.html, link :: page.links⟩) <$> ofPieces config brand ps

def ofHtml (html : Text) (config : Config) (brand : Option Text) : Logged MonetizedPage := do
  let page ← ofPieces config brand (Page.pieces html)
  Logged.tell .info .scan ("monetized document: ".toList ++ page.tally.render ++ " (".toList ++
    Numeral.decimal page.tally.total ++ " links)".toList)
  return page

end MonetizedPage

end AffiliateLinks
