import AffiliateLinks.Text.Basic

/-!
# Punycode

A label in ASCII holds its ASCII characters first, and after a hyphen the positions and values of
the others. The others are taken in ascending order, each as the number of places that an insertion
point skips since the one before, in a numeral of variable length whose digit weights adapt.
-/

namespace AffiliateLinks.Punycode

def digit (n : Nat) : Char := if n < 26 then Char.ofNat (97 + n) else Char.ofNat (22 + n)

def digitValue? (c : Char) : Option Nat :=
  if 'a' ≤ c ∧ c ≤ 'z' then some (c.toNat - 97)
  else if 'A' ≤ c ∧ c ≤ 'Z' then some (c.toNat - 65)
  else if '0' ≤ c ∧ c ≤ '9' then some (c.toNat - 22)
  else none

/-- A digit below the threshold of its place ends the numeral. -/
def threshold (bias place : Nat) : Nat := max 1 (min 26 (place - bias))

theorem threshold_bounds (bias place : Nat) :
    1 ≤ threshold bias place ∧ threshold bias place ≤ 26 := by
  unfold threshold
  omega

def settle (delta place : Nat) : Nat :=
  if 455 < delta then settle (delta / 35) (place + 36) else place + 36 * delta / (delta + 38)
  termination_by delta
  decreasing_by omega

/-- The bias after an insertion that makes `count` characters. -/
def adapt (delta count : Nat) (isFirst : Bool) : Nat :=
  let delta := if isFirst then delta / 700 else delta / 2
  settle (delta + delta / count) 0

def firstBias : Nat := 72

def writeNumeral (bias place q : Nat) : Text :=
  let t := threshold bias place
  if q < t then [digit q]
  else digit (t + (q - t) % (36 - t)) :: writeNumeral bias (place + 36) ((q - t) / (36 - t))
  termination_by q
  decreasing_by
    obtain ⟨h₁, h₂⟩ := threshold_bounds bias place
    have : (q - threshold bias place) / (36 - threshold bias place) ≤ q - threshold bias place :=
      Nat.div_le_self _ _
    omega

/-- How far an encoding has come: what is written, the distance since the last insertion, the
bias, and how many characters are in place. -/
structure Progress where
  written : Text
  delta : Nat
  bias : Nat
  placed : Nat

/-- Passes over one character while those equal to `m` are inserted. -/
def visit (basicCount m : Nat) (p : Progress) (c : Char) : Progress :=
  if c.toNat < m then { p with delta := p.delta + 1 }
  else if c.toNat = m then
    { written := p.written ++ writeNumeral p.bias 36 p.delta
      delta := 0
      bias := adapt p.delta (p.placed + 1) (p.placed = basicCount)
      placed := p.placed + 1 }
  else p

/-- Inserts the characters of each value in turn; `n` is one more than the value before. -/
def insertAll (label : Text) (basicCount : Nat) : Nat → List Nat → Progress → Progress
  | _, [], p => p
  | n, m :: ms, p =>
    let p := { p with delta := p.delta + (m - n) * (p.placed + 1) }
    let p := label.foldl (visit basicCount m) p
    insertAll label basicCount (m + 1) ms { p with delta := p.delta + 1 }

def isAscii (c : Char) : Bool := c.toNat < 0x80

def encode (label : Text) : Text :=
  let basic := label.filter isAscii
  let others := (Text.sorted ((label.filter fun c => !isAscii c).map fun c => [c])).flatten
  let start : Progress := ⟨[], 0, firstBias, basic.length⟩
  (if basic.isEmpty then [] else basic ++ ['-']) ++
    (insertAll label basic.length 0x80 (others.map Char.toNat) start).written

/-- The number at the head and what follows it. `weight` is that of the digit at the head. -/
def readNumeral (bias : Nat) : Nat → Nat → Nat → Text → Option (Nat × Text)
  | _, _, _, [] => none
  | place, weight, sum, c :: rest =>
    match digitValue? c with
    | none => none
    | some d =>
      let t := threshold bias place
      if d < t then some (sum + d * weight, rest)
      else readNumeral bias (place + 36) (weight * (36 - t)) (sum + d * weight) rest

theorem length_readNumeral {bias place weight sum n : Nat} {t rest : Text}
    (h : readNumeral bias place weight sum t = some (n, rest)) : rest.length < t.length := by
  induction t generalizing place weight sum with
  | nil => simp [readNumeral] at h
  | cons c t ih =>
    simp only [readNumeral] at h
    split at h
    · simp at h
    · split at h
      · simp only [Option.some.injEq, Prod.mk.injEq] at h
        simp [h.2]
      · have := ih h
        simp only [List.length_cons]
        omega

/-- Inserts the characters that the rest of the encoding describes. -/
def insertRest (n i bias : Nat) (isFirst : Bool) (label rest : Text) : Option Text :=
  match rest with
  | [] => some label
  | c :: cs =>
    match _h : readNumeral bias 36 1 0 (c :: cs) with
    | none => none
    | some (delta, rest') =>
      let count := label.length + 1
      let n := n + (i + delta) / count
      let i := (i + delta) % count
      if n.isValidChar then
        insertRest n (i + 1) (adapt delta count isFirst) false
          (label.take i ++ Char.ofNat n :: label.drop i) rest'
      else none
  termination_by rest.length
  decreasing_by exact length_readNumeral _h

/-- The ASCII characters before the last hyphen, and what follows it. -/
def cutBasic (t : Text) : Text × Text :=
  match Text.cut? '-' t.reverse with
  | some (rest, basic) => if basic.isEmpty then ([], t) else (basic.reverse, rest.reverse)
  | none => ([], t)

def decode? (t : Text) : Option Text :=
  let (basic, rest) := cutBasic t
  insertRest 0x80 0 firstBias true basic rest

end AffiliateLinks.Punycode
