import AffiliateLinks.Text.Numeral
import AffiliateLinks.Text.Utf8

/-!
# Percent-encoding

Each part of a URL has a set of characters that may not stand in it. Encoding writes the UTF-8 bytes
of those as a percent sign and two hexadecimal digits; a percent sign that is already there stays.

As a value in a query, a space is written as a plus sign, and only ASCII letters, digits and the four
marks `_`, `.`, `-` and `~` stand for themselves. A query is read as pairs of a key and a value, each
in any spelling.
-/

namespace AffiliateLinks

namespace Percent

/-- Holds for the characters that a part of a URL has to encode. -/
abbrev EncodeSet := Char → Bool

/-- Controls and everything outside ASCII. -/
def control : EncodeSet := fun c => c.toNat < 0x20 || 0x7E < c.toNat

def fragment : EncodeSet := fun c =>
  control c || c = ' ' || c = '"' || c = '<' || c = '>' || c = '`'

def query : EncodeSet := fun c => control c || c = ' ' || c = '"' || c = '#' || c = '<' || c = '>'

def specialQuery : EncodeSet := fun c => query c || c = '\''

def path : EncodeSet := fun c => fragment c || c = '#' || c = '?' || c = '\x7b' || c = '\x7d'

def userinfo : EncodeSet := fun c =>
  path c || c = '/' || c = ':' || c = ';' || c = '=' || c = '@' || c = '[' || c = '\\' || c = ']' ||
    c = '^' || c = '|'

def byte (b : UInt8) : Text := '%' :: Numeral.upperHexByte b

def char (s : EncodeSet) (c : Char) : Text :=
  if s c then (String.utf8EncodeChar c).flatMap byte else [c]

def encode (s : EncodeSet) (t : Text) : Text := t.flatMap (char s)

/-- Every percent sign with two hexadecimal digits after it becomes the byte that they stand for. -/
def decode : Bytes → Bytes
  | 0x25 :: h :: l :: rest =>
    match Numeral.digitValue? (Char.ofNat h.toNat), Numeral.digitValue? (Char.ofNat l.toNat) with
    | some a, some b =>
      if a < 16 ∧ b < 16 then UInt8.ofNat (a * 16 + b) :: decode rest
      else 0x25 :: decode (h :: l :: rest)
    | _, _ => 0x25 :: decode (h :: l :: rest)
  | b :: rest => b :: decode rest
  | [] => []
  termination_by bs => bs.length

end Percent

namespace Form

def isPlain (c : Char) : Bool := c.isAlphanum || c = '_' || c = '.' || c = '-' || c = '~'

def char (c : Char) : Text := if c = ' ' then ['+'] else Percent.char (fun c => !isPlain c) c

def encode (t : Text) : Text := t.flatMap char

/-- What a key or value stands for, with a replacement character for bytes that are not UTF-8. -/
def decode (t : Text) : Text :=
  Utf8.decodeLossy (Percent.decode (Utf8.encode (t.map fun c => if c = '+' then ' ' else c)))

/-- The key and the value of a segment. Without an equals sign the value is empty. -/
def pair (segment : Text) : Text × Text :=
  match Text.cut? '=' segment with
  | some (key, value) => (decode key, decode value)
  | none => (decode segment, [])

/-- The pairs of a query. Empty segments have none. -/
def pairs (query : Text) : List (Text × Text) :=
  ((Text.split '&' query).filter fun s => s ≠ []).map pair

end Form

end AffiliateLinks
