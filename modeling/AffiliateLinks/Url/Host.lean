import AffiliateLinks.Text.Numeral
import AffiliateLinks.Url.Idna
import AffiliateLinks.Url.Percent

/-!
# Hosts

A host is a name or an address. The schemes of the web read names as domains, and a domain that ends
in a number as an IPv4 address; other schemes take a name as it is.

The parts of an IPv4 address may be decimal, octal or hexadecimal, and the last part fills all the
bytes that the parts before it leave. An IPv6 address is eight pieces of sixteen bits. Two colons
stand for a run of zero pieces, and an IPv4 address may stand for the last two pieces. Written out,
the first longest run of two or more zero pieces is the one that two colons stand for.
-/

namespace AffiliateLinks

namespace Ipv4

/-- The number of a part: hexadecimal after `0x`, octal after `0`, else decimal. A prefix alone
stands for zero. -/
def part? (t : Text) : Option Nat :=
  match t with
  | [] => none
  | '0' :: 'x' :: ds | '0' :: 'X' :: ds => if ds.isEmpty then some 0 else Numeral.read? 16 ds
  | '0' :: d :: ds => Numeral.read? 8 (d :: ds)
  | ds => Numeral.read? 10 ds

/-- The last label, or the one before it when the last is empty. -/
def lastLabel? (labels : List Text) : Option Text :=
  match labels.reverse with
  | [] :: l :: _ => some l
  | [] :: [] => none
  | l :: _ => some l
  | [] => none

def endsInNumber (host : Text) : Bool :=
  match lastLabel? (Text.split '.' host) with
  | none => false
  | some l => (!l.isEmpty && l.all Char.isDigit) || (part? l).isSome

/-- The address of parts whose numbers are given, most significant first. -/
def combine? (numbers : List Nat) : Option Nat :=
  match numbers.reverse with
  | [] => none
  | last :: front =>
    if Nat.pow 256 (4 - front.length) ≤ last || front.any (255 < ·) then none
    else some (front.reverse.foldr (fun n (i, sum) => (i + 1, sum + n * Nat.pow 256 i))
      (4 - front.length, last)).2

def read? (host : Text) : Option Nat := do
  let labels := Text.split '.' host
  let labels := if labels.getLast? = some [] then labels.dropLast else labels
  if 4 < labels.length then none
  combine? (← labels.mapM part?)

def write (address : Nat) : Text :=
  Text.join '.' ([3, 2, 1, 0].map fun i => Numeral.decimal (address / Nat.pow 256 i % 256))

end Ipv4

namespace Ipv6

def pieceCount : Nat := 8

/-- A decimal number up to 255 without a leading zero. -/
def octet? (t : Text) : Option Nat :=
  match t with
  | [] => none
  | ['0'] => some 0
  | '0' :: _ => none
  | ds => if ds.length ≤ 3 then (Numeral.read? 10 ds).filter (· ≤ 255) else none

/-- The two pieces that a dotted IPv4 address fills. -/
def embedded? (t : Text) : Option (List Nat) := do
  match ← (Text.split '.' t).mapM octet? with
  | [a, b, c, d] => some [a * 256 + b, c * 256 + d]
  | _ => none

def piece? (t : Text) : Option Nat := if t.length ≤ 4 then Numeral.read? 16 t else none

/-- The pieces between single colons; the last of them may be an IPv4 address. -/
def group? : List Text → Option (List Nat)
  | [] => some []
  | [p] => if p.contains '.' then embedded? p else (piece? p).map fun n => [n]
  | p :: q :: ps => do return (← piece? p) :: (← group? (q :: ps))

/-- The pieces of one side of the two colons. -/
def side? (t : Text) : Option (List Nat) := if t.isEmpty then some [] else group? (Text.split ':' t)

/-- The sides of the first two colons in a row. -/
def gap? : Text → Option (Text × Text)
  | ':' :: ':' :: t => some ([], t)
  | c :: t => (gap? t).map fun (a, b) => (c :: a, b)
  | [] => none

def read? (t : Text) : Option (List Nat) := do
  match gap? t with
  | none =>
    let ps ← group? (Text.split ':' t)
    if ps.length = pieceCount then some ps else none
  | some (front, back) =>
    if front.contains '.' then none
    let a ← side? front
    let b ← side? back
    if a.length + b.length < pieceCount then
      some (a ++ List.replicate (pieceCount - a.length - b.length) 0 ++ b)
    else none

/-- The run of zeros at the head. -/
def zeros (ps : List Nat) : Nat := (ps.takeWhile (· = 0)).length

/-- Start and length of the first longest run of zeros, looked for from position `i` on. -/
def longestRun : Nat → List Nat → Nat × Nat
  | _, [] => (0, 0)
  | i, p :: ps =>
    let (start, length) := longestRun (i + 1) ps
    if length ≤ zeros (p :: ps) then (i, zeros (p :: ps)) else (start, length)

def joined (ps : List Nat) : Text := Text.join ':' (ps.map Numeral.hex)

def write (ps : List Nat) : Text :=
  let (start, length) := longestRun 0 ps
  if length < 2 then joined ps
  else joined (ps.take start) ++ [':', ':'] ++ joined (ps.drop (start + length))

end Ipv6

inductive Host
  | name (t : Text)
  | ipv4 (address : Nat)
  | ipv6 (pieces : List Nat)
  deriving DecidableEq, Repr

namespace Host

def text : Host → Text
  | name t => t
  | ipv4 a => Ipv4.write a
  | ipv6 ps => '[' :: Ipv6.write ps ++ [']']

/-- The text between an opening bracket and a closing one at the end. -/
def bracketed? (t : Text) : Option Text := do
  Text.before? [']'] (← Text.after? ['['] t)

def ofAddress? (t : Text) : Option Host := do return .ipv6 (← Ipv6.read? (← bracketed? t))

/-- The domain that a text stands for once its percent-encoding is undone. -/
def ofDomain? (t : Text) : Option Host := do
  let d ← Idna.host? (Percent.decode (Utf8.encode t))
  if d.isEmpty then none
  if Ipv4.endsInNumber d then return .ipv4 (← Ipv4.read? d)
  return .name d

/-- A host of a web scheme. -/
def special? (t : Text) : Option Host := if t.head? = some '[' then ofAddress? t else ofDomain? t

def isForbidden (c : Char) : Bool := "\x00\t\n\r #/:<>?@[\\]^|".toList.contains c

/-- A host of another scheme, which may be empty. -/
def plain? (t : Text) : Option Host :=
  if t.head? = some '[' then ofAddress? t
  else if t.any isForbidden then none
  else some (.name (Percent.encode Percent.control t))

end Host

end AffiliateLinks
