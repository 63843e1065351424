import AffiliateLinks.Text.Basic

/-!
# Numerals, and tables of code points

Natural numbers are written and read in a base up to thirty-six, with the letters as digits from ten
on. A table is a listing of runs of code points in ascending order. In the listing a run is its first
and last member in hexadecimal with a hyphen between them, or its only member, and a value may
follow after an equals sign.
-/

namespace AffiliateLinks

namespace Numeral

/-- The digit of a value below thirty-six, letters in lower case. -/
def digit (n : Nat) : Char := if n < 10 then Char.ofNat (48 + n) else Char.ofNat (87 + n)

/-- The value of a digit, letters in either case. -/
def digitValue? (c : Char) : Option Nat :=
  if '0' ≤ c ∧ c ≤ '9' then some (c.toNat - 48)
  else if 'a' ≤ c ∧ c ≤ 'z' then some (c.toNat - 87)
  else if 'A' ≤ c ∧ c ≤ 'Z' then some (c.toNat - 55)
  else none

def isDigit (base : Nat) (c : Char) : Bool :=
  match digitValue? c with
  | some n => n < base
  | none => false

/-- The numeral of `n`, without leading zeros. -/
def write (base n : Nat) : Text :=
  if n < base ∨ base < 2 then [digit n] else write base (n / base) ++ [digit (n % base)]
  termination_by n
  decreasing_by
    have hb : 2 ≤ base := by omega
    exact Nat.div_lt_self (by omega) hb

/-- The number of a run of digits, most significant first. -/
def value (base : Nat) (ds : Text) : Nat :=
  ds.foldl (fun n c => n * base + (digitValue? c).getD 0) 0

/-- The number that a non-empty text of digits stands for. -/
def read? (base : Nat) (t : Text) : Option Nat :=
  if t.isEmpty || !t.all (isDigit base) then none else some (value base t)

def decimal (n : Nat) : Text := write 10 n

def hex (n : Nat) : Text := write 16 n

/-- Two hexadecimal digits, letters in lower case. -/
def hexByte (b : UInt8) : Text := [digit (b.toNat / 16), digit (b.toNat % 16)]

/-- Two hexadecimal digits, letters in upper case. -/
def upperHexByte (b : UInt8) : Text := (hexByte b).map Char.toUpper

end Numeral

namespace Table

structure Row where
  first : Nat
  last : Nat
  value : Text
  deriving Inhabited, Repr

def words (t : Text) : List Text :=
  ((Text.split '\n' t).flatMap (Text.split ' ')).filter fun w => !w.isEmpty

def row? (word : Text) : Option Row := do
  let (run, value) := (Text.cut? '=' word).getD (word, [])
  let (first, last) := (Text.cut? '-' run).getD (run, run)
  return ⟨← Numeral.read? 16 first, ← Numeral.read? 16 last, value⟩

def rows (listing : String) : Array Row := ((words listing.toList).filterMap row?).toArray

/-- Looks for the row of `n` among the rows from `lo` up to `hi`, by halving. -/
def findIn (table : Array Row) (n lo hi : Nat) : Option Row :=
  if lo < hi then
    let mid := (lo + hi) / 2
    match table[mid]? with
    | none => none
    | some r =>
      if n < r.first then findIn table n lo mid
      else if r.last < n then findIn table n (mid + 1) hi
      else some r
  else none
  termination_by hi - lo

def find? (table : Array Row) (n : Nat) : Option Row := findIn table n 0 table.size

def holds (table : Array Row) (n : Nat) : Bool := (find? table n).isSome

end Table

end AffiliateLinks
