import AffiliateLinks.Markup.Attribute

/-!
# Anchors

An anchor is a start tag named `a` with a quoted `href`. Where the tag ends depends on what comes
later: a value without quotes gives characters back when the rest of the tag would not fit otherwise,
and a quote that is never closed would carry the tag on into others. So each place of a page is read
from the end backwards, and what can begin there is found from what can begin one character later.
-/

namespace AffiliateLinks

/-- A tag cut at its link. The quotes of the link belong to the parts around it. -/
structure Anchor where
  before : Text
  link : Text
  after : Text
  deriving DecidableEq, Repr

namespace Anchor

def text (a : Anchor) : Text := a.before ++ a.link ++ a.after

def push (c : Char) (a : Anchor) : Anchor := { a with before := c :: a.before }

def pushLink (c : Char) (a : Anchor) : Anchor := { a with link := c :: a.link }

/-- The parts from the quote that closes the link on. -/
def closing (quote : Char) (after : Text) : Anchor := ⟨[], [], quote :: after⟩

end Anchor

/-- What can be read at one place inside an attribute, by how far the attribute has come; `next` is
what can be read there after it. -/
structure AttributeState (α : Type) where
  next : Option α
  name : Option α
  equals : Option α
  value : Option α
  doubleQuoted : Option α
  singleQuoted : Option α
  bare : Option α

namespace AttributeState

def none {α : Type} : AttributeState α := ⟨.none, .none, .none, .none, .none, .none, .none⟩

/-- Goes back by one character. -/
def step {α : Type} (push : Char → α → α) (next : Option α) (c : Char) (s : AttributeState α) :
    AttributeState α :=
  let blank := Text.isBlank c
  let equals := if blank then s.equals.map (push c) else if c = '=' then s.value.map (push c) else .none
  { next
    equals
    name := if Attribute.continuesName c then s.name.map (push c) else equals <|> next
    value :=
      if blank then s.value.map (push c)
      else if c = '"' then s.doubleQuoted.map (push c)
      else if c = '\'' then s.singleQuoted.map (push c)
      else if c = '>' then .none
      else s.bare.map (push c)
    doubleQuoted := (if c = '"' then s.next else s.doubleQuoted).map (push c)
    singleQuoted := (if c = '\'' then s.next else s.singleQuoted).map (push c)
    bare := (if Attribute.continuesBareValue c then s.bare.map (push c) else .none) <|> next }

end AttributeState

/-- What can be read at one place inside `href` and its value, by how far they have come. -/
structure LinkState where
  start : Option Anchor
  ref : Option Anchor
  ef : Option Anchor
  f : Option Anchor
  equals : Option Anchor
  value : Option Anchor
  doubleQuoted : Option Anchor
  singleQuoted : Option Anchor

namespace LinkState

def none : LinkState := ⟨.none, .none, .none, .none, .none, .none, .none, .none⟩

def letter (l c : Char) (s : Option Anchor) : Option Anchor :=
  if c.toLower = l then s.map (Anchor.push c) else .none

/-- Goes back by one character; `after` is what can follow the closing quote, and `allowed` tells the
characters that the link may hold. -/
def step (allowed : Char → Bool) (after : Option Text) (c : Char) (s : LinkState) : LinkState :=
  let blank := Text.isBlank c
  let quoted (quote : Char) (s : Option Anchor) : Option Anchor :=
    if c = quote then after.map (Anchor.closing quote)
    else if allowed c then s.map (Anchor.pushLink c)
    else .none
  { start := letter 'h' c s.ref
    ref := letter 'r' c s.ef
    ef := letter 'e' c s.f
    f := letter 'f' c s.equals
    equals := if blank || c = '=' then (if blank then s.equals else s.value).map (Anchor.push c) else .none
    value :=
      if blank then s.value.map (Anchor.push c)
      else if c = '"' then s.doubleQuoted.map (Anchor.push c)
      else if c = '\'' then s.singleQuoted.map (Anchor.push c)
      else .none
    doubleQuoted := quoted '"' s.doubleQuoted
    singleQuoted := quoted '\'' s.singleQuoted }

end LinkState

/-- What can be read at one place of a tag that is read by its attributes: the attributes after the
link and the end of the tag, the attributes before the link, white space before the next of these,
the link itself, and the tag from its name on. -/
structure TagState where
  tail : AttributeState Text
  head : AttributeState Anchor
  spaced : Option Anchor
  link : LinkState
  name : Option Anchor

namespace TagState

def none : TagState := ⟨.none, .none, .none, .none, .none⟩

def tailNext (c : Char) (s : AttributeState Text) : Option Text :=
  if Attribute.isSeparator c then s.next.map (c :: ·)
  else if c = '>' then some [c]
  else if Attribute.startsName c then s.name.map (c :: ·)
  else .none

def step (c : Char) (s : TagState) : TagState :=
  let link := s.link.step (fun _ => true) s.tail.next c
  let separated := Attribute.isSeparator c
  let gap := if separated then s.spaced.map (Anchor.push c) else .none
  { tail := s.tail.step List.cons (tailNext c s.tail) c
    head := s.head.step Anchor.push gap c
    spaced :=
      if separated then gap
      else link.start <|>
        if Attribute.startsName c then s.head.name.map (Anchor.push c) else .none
    link
    name := if c.toLower = 'a' then s.head.next.map (Anchor.push c) else .none }

end TagState

/-- What can be read at one place of a tag that is taken to end at its first closing bracket: the
end of the tag, anything before the link, the link itself, white space after the name, and the tag
from its name on. -/
structure PlainState where
  tail : Option Text
  skip : Option Anchor
  link : LinkState
  gap : Option Anchor
  name : Option Anchor

namespace PlainState

def none : PlainState := ⟨.none, .none, .none, .none, .none⟩

def step (c : Char) (s : PlainState) : PlainState :=
  { tail := if c = '>' then some [c] else s.tail.map (c :: ·)
    skip :=
      (if Text.isBlank c then s.link.start.map (Anchor.push c) else .none) <|>
        if c = '>' then .none else s.skip.map (Anchor.push c)
    link := s.link.step (fun c => c ≠ '<' && c ≠ '>') s.tail c
    gap := if Text.isBlank c then (s.skip <|> s.link.start).map (Anchor.push c) else .none
    name := if c.toLower = 'a' then s.gap.map (Anchor.push c) else .none }

end PlainState

/-- What can be read at one place of a page. -/
structure PageState where
  tag : TagState
  plain : PlainState
  anchor : Option Anchor

namespace PageState

def none : PageState := ⟨.none, .none, .none⟩

/-- The anchor whose name follows. One that runs into another tag is cut back to its first closing
bracket, or given up. -/
def anchor? (s : PageState) : Option Anchor :=
  match s.tag.name with
  | some a => if a.text.contains '<' then s.plain.name else some a
  | .none => .none

def step (c : Char) (s : PageState) : PageState :=
  { tag := s.tag.step c
    plain := s.plain.step c
    anchor := if c = '<' then s.anchor?.map (Anchor.push c) else .none }

def of (t : Text) : PageState := t.foldr step none

end PageState

/-- The anchor at the head of a text. -/
def Anchor.read? (t : Text) : Option Anchor := (PageState.of t).anchor

inductive Piece
  | char (c : Char)
  | anchor (a : Anchor)
  deriving DecidableEq, Repr

namespace Piece

def text : Piece → Text
  | char c => [c]
  | anchor a => a.text

end Piece

namespace Page

/-- Each character of a page with the anchor that begins at it. -/
def marks (t : Text) : List (Char × Option Anchor) :=
  (t.foldr (fun c (s, ms) => let s := PageState.step c s; (s, (c, s.anchor) :: ms))
    (PageState.none, [])).2

/-- Takes the first anchor, skips its text, and goes on; `skip` characters are still to be passed
over. -/
def cut : Nat → List (Char × Option Anchor) → List Piece
  | _, [] => []
  | skip + 1, _ :: ms => cut skip ms
  | 0, (c, none) :: ms => .char c :: cut 0 ms
  | 0, (_, some a) :: ms => .anchor a :: cut (a.text.length - 1) ms

def pieces (t : Text) : List Piece := cut 0 (marks t)

end Page

end AffiliateLinks
