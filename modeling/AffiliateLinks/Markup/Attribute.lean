import AffiliateLinks.Text.Utf8

/-!
# Attributes of a start tag

An attribute is a name, and after an equals sign perhaps a value. Quotes delimit a value only right
after the equals sign; a value without them runs to white space or the end of the tag.
-/

namespace AffiliateLinks

/-- A value is kept without its quotes. -/
structure Attribute where
  name : Text
  value : Option Text
  deriving DecidableEq, Repr

namespace Attribute

/-- White space and slashes stand between attributes. -/
def isSeparator (c : Char) : Bool := Text.isBlank c || c = '/'

def continuesName (c : Char) : Bool := !(Text.isBlank c || c = '>' || c = '/' || c = '=')

def startsName (c : Char) : Bool := continuesName c && c ≠ '"' && c ≠ '\''

def continuesBareValue (c : Char) : Bool := !Text.isBlank c && c ≠ '>'

/-- What follows the equals sign and the white space around it. -/
def afterEquals? (t : Text) : Option Text :=
  match t.dropWhile Text.isBlank with
  | '=' :: r => some (r.dropWhile Text.isBlank)
  | _ => none

/-- The value after a name, and the rest. -/
def value? (t : Text) : Option (Text × Text) :=
  match afterEquals? t with
  | some ('"' :: r) => Text.cut? '"' r
  | some ('\'' :: r) => Text.cut? '\'' r
  | some (c :: r) =>
    if continuesBareValue c then
      some (c :: r.takeWhile continuesBareValue, r.dropWhile continuesBareValue)
    else none
  | _ => none

theorem length_cut? {sep : Char} {t a b : Text} (h : Text.cut? sep t = some (a, b)) :
    b.length < t.length := by
  induction t generalizing a with
  | nil => simp [Text.cut?] at h
  | cons c t ih =>
    simp only [Text.cut?] at h
    split at h
    · simp only [Option.some.injEq, Prod.mk.injEq] at h
      simp [h.2]
    · obtain ⟨⟨x, y⟩, hxy, he⟩ := Option.map_eq_some_iff.1 h
      simp only [Prod.mk.injEq] at he
      obtain ⟨_, rfl⟩ := he
      have := ih hxy
      simp only [List.length_cons]
      omega

theorem length_dropWhile_le {α : Type} (p : α → Bool) (t : List α) :
    (t.dropWhile p).length ≤ t.length := (List.dropWhile_suffix p).length_le

theorem length_afterEquals? {t r : Text} (h : afterEquals? t = some r) : r.length < t.length := by
  unfold afterEquals? at h
  split at h
  · next r' hr =>
    simp only [Option.some.injEq] at h
    subst h
    have h₁ := length_dropWhile_le Text.isBlank r'
    have h₂ := length_dropWhile_le Text.isBlank t
    rw [hr, List.length_cons] at h₂
    omega
  · simp at h

theorem length_value? {t v rest : Text} (h : value? t = some (v, rest)) :
    rest.length < t.length := by
  unfold value? at h
  split at h
  · next r hr =>
    have h₁ := length_afterEquals? hr
    have h₂ := length_cut? h
    simp only [List.length_cons] at h₁
    omega
  · next r hr =>
    have h₁ := length_afterEquals? hr
    have h₂ := length_cut? h
    simp only [List.length_cons] at h₁
    omega
  · next c r _ _ hr =>
    have h₁ := length_afterEquals? hr
    have h₂ := length_dropWhile_le continuesBareValue r
    split at h
    · simp only [Option.some.injEq, Prod.mk.injEq] at h
      rw [← h.2]
      simp only [List.length_cons] at h₁
      omega
    · simp at h
  · simp at h

/-- The attributes of the inside of a tag. Characters that begin no name are passed over. -/
def readAll : Text → List Attribute
  | [] => []
  | c :: t =>
    if startsName c then
      let name := c :: t.takeWhile continuesName
      let rest := t.dropWhile continuesName
      match _h : value? rest with
      | some (v, rest') => ⟨name, some v⟩ :: readAll rest'
      | none => ⟨name, none⟩ :: readAll rest
    else readAll t
  termination_by t => t.length
  decreasing_by
    · have h₁ : rest'.length < (t.dropWhile continuesName).length := length_value? _h
      have h₂ := length_dropWhile_le continuesName t
      simp only [List.length_cons]
      omega
    · have h₂ := length_dropWhile_le continuesName t
      simp only [List.length_cons]
      omega
    · simp

end Attribute

namespace Tag

/-- The text without its first `n` bytes, where they end with a character. -/
def dropBytes? : Nat → Text → Option Text
  | 0, t => some t
  | _ + 1, [] => none
  | n + 1, c :: t => if c.utf8Size ≤ n + 1 then dropBytes? (n + 1 - c.utf8Size) t else none

/-- The attributes of a tag that begins with a bracket and a name of one letter. -/
def attributes (tag : Text) : List Attribute := Attribute.readAll ((dropBytes? 2 tag).getD [])

/-- Holds when a tag says how its target relates to the page, with or without a value. -/
def hasRel (tag : Text) : Bool :=
  (attributes tag).any fun a => Text.eqIgnoringCase a.name "rel".toList

def sponsoredRel : Text := " rel=\"nofollow sponsored\"".toList

/-- Marks the target as sponsored, right before the bracket or slash that closes the tag. -/
def addSponsoredRel (tag : Text) : Text :=
  let body := (Text.before? ['>'] tag).getD tag
  match Text.before? ['/'] (Text.trimEnd body) with
  | some front => Text.trimEnd front ++ sponsoredRel ++ " />".toList
  | none => body ++ sponsoredRel ++ ['>']

end Tag

end AffiliateLinks
