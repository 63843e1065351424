/-!
# Text

A text is a list of Unicode scalar values. The operations here are the ones that the rest of the
library shares: ASCII case, cutting at a separator, and the order of texts by code point, which is
also the order of their UTF-8 bytes. White space is what has the Unicode property White_Space, and is
removed at the ends of a text.
-/

namespace AffiliateLinks

abbrev Text := List Char

namespace Text

/-- ASCII letters in lower case; every other character stays as it is. -/
def lower (t : Text) : Text := t.map Char.toLower

def eqIgnoringCase (s t : Text) : Bool := lower s == lower t

/-- The pieces between separators. A text without a separator is one piece. -/
def split (sep : Char) : Text → List Text
  | [] => [[]]
  | c :: t =>
    if c = sep then [] :: split sep t
    else match split sep t with
      | [] => [[c]]
      | p :: ps => (c :: p) :: ps

/-- The pieces with one separator between neighbours. -/
def join (sep : Char) : List Text → Text
  | [] => []
  | [p] => p
  | p :: q :: ps => p ++ sep :: join sep (q :: ps)

/-- What follows `p`, when the text begins with it. -/
def after? : Text → Text → Option Text
  | [], t => some t
  | _ :: _, [] => none
  | p :: ps, c :: t => if p = c then after? ps t else none

/-- What comes before `p`, when the text ends with it. -/
def before? (p t : Text) : Option Text := (after? p.reverse t.reverse).map List.reverse

def startsWith (p t : Text) : Bool := (after? p t).isSome

/-- The parts on either side of the first separator. -/
def cut? (sep : Char) : Text → Option (Text × Text)
  | [] => none
  | c :: t => if c = sep then some ([], t) else (cut? sep t).map fun (a, b) => (c :: a, b)

/-- Every `c` replaced by the text `r`. -/
def replace (c : Char) (r : Text) (t : Text) : Text := t.flatMap fun d => if d = c then r else [d]

/-- Order by the first code point that differs. -/
def before : Text → Text → Bool
  | _, [] => false
  | [], _ :: _ => true
  | a :: s, b :: t => if a = b then before s t else a.toNat < b.toNat

/-- A text put into an ascending list, once. -/
def insert (t : Text) : List Text → List Text
  | [] => [t]
  | u :: us => if t = u then u :: us else if before t u then t :: u :: us else u :: insert t us

/-- The ascending list of the texts of a list. -/
def sorted (ts : List Text) : List Text := ts.foldl (fun us t => insert t us) []

@[simp] theorem split_nil (sep : Char) : split sep [] = [[]] := rfl

theorem split_ne_nil (sep : Char) (t : Text) : split sep t ≠ [] := by
  cases t with
  | nil => simp
  | cons c t =>
    simp only [split]
    split
    · simp
    · split <;> simp

theorem join_split (sep : Char) (t : Text) : join sep (split sep t) = t := by
  induction t with
  | nil => rfl
  | cons c t ih =>
    simp only [split]
    cases h : split sep t with
    | nil => exact absurd h (split_ne_nil sep t)
    | cons p ps =>
      rw [h] at ih
      by_cases hc : c = sep
      · simp [hc, join, ih]
      · cases ps with
        | nil => simpa [hc, join] using ih
        | cons q qs => simpa [hc, join] using ih

theorem after?_eq_some_iff {p t r : Text} : after? p t = some r ↔ t = p ++ r := by
  induction p generalizing t with
  | nil => simp [after?, eq_comm]
  | cons a p ih =>
    cases t with
    | nil => simp [after?]
    | cons c t =>
      by_cases h : a = c
      · simp [after?, h, ih]
      · simp [after?, h, Ne.symm h]

theorem mem_insert {t u : Text} {us : List Text} : t ∈ insert u us ↔ t = u ∨ t ∈ us := by
  induction us with
  | nil => simp [insert]
  | cons v us ih =>
    simp only [insert]
    split
    · simp_all
    · split
      · simp
      · simp only [List.mem_cons, ih]
        grind

/-- First and last members of the runs of white space. -/
def blankRuns : List (Nat × Nat) :=
  [(0x9, 0xD), (0x20, 0x20), (0x85, 0x85), (0xA0, 0xA0), (0x1680, 0x1680), (0x2000, 0x200A),
    (0x2028, 0x2029), (0x202F, 0x202F), (0x205F, 0x205F), (0x3000, 0x3000)]

def isBlank (c : Char) : Bool := blankRuns.any fun (lo, hi) => lo ≤ c.toNat && c.toNat ≤ hi

def trimStart (t : Text) : Text := t.dropWhile isBlank

def trimEnd (t : Text) : Text := (t.reverse.dropWhile isBlank).reverse

def trim (t : Text) : Text := trimEnd (trimStart t)

end Text

end AffiliateLinks
