import AffiliateLinks.Text.Identifier
import AffiliateLinks.Text.Numeral
import AffiliateLinks.Text.Utf8

/-!
# Tokens of RON

The text of a settings file or a ledger is cut into words, numbers, strings and punctuation. White
space and comments stand anywhere between them, and comments in blocks may be nested.

An integer is written in base two, eight, ten or sixteen, a decimal fraction with a point or an
exponent, and either may end in the name of a type. Underscores may group the digits.
-/

namespace AffiliateLinks

namespace Ron.Number

/-- Holds for a minus sign; the text after the sign, if there is one. -/
def cutSign : Text → Bool × Text
  | '-' :: t => (true, t)
  | '+' :: t => (false, t)
  | t => (false, t)

def cutBase : Text → Nat × Text
  | '0' :: 'x' :: t => (16, t)
  | '0' :: 'o' :: t => (8, t)
  | '0' :: 'b' :: t => (2, t)
  | t => (10, t)

def integerTypes : List Text :=
  ["i8", "i16", "i32", "i64", "i128", "u8", "u16", "u32", "u64", "u128"].map String.toList

/-- The number without its sign, and the name of its type. -/
def integer? (t : Text) : Option (Nat × Text) :=
  let (base, t) := cutBase t
  let isPart (c : Char) : Bool := Numeral.isDigit 16 c || c = '_'
  let digits := t.takeWhile isPart
  let type := t.dropWhile isPart
  if digits.head? = some '_' || !(type.isEmpty || integerTypes.contains type) then none
  else (Numeral.read? base (digits.filter (· ≠ '_'))).map fun n => (n, type)

/-- No underscore stands first or right after the point. -/
def isGrouped : Bool → Text → Bool
  | _, [] => true
  | allowed, c :: t => if c = '_' then allowed && isGrouped true t else isGrouped (c ≠ '.') t

def isExponent (t : Text) : Bool :=
  let (_, ds) := cutSign t
  !ds.isEmpty && ds.all Char.isDigit

/-- Digits with at most one point among them. -/
def isMantissa (t : Text) : Bool :=
  let (a, b) := (Text.cut? '.' t).getD (t, [])
  !(a.isEmpty && b.isEmpty) && a.all Char.isDigit && b.all Char.isDigit

def isDecimal (t : Text) : Bool :=
  let mantissa := t.takeWhile fun c => c ≠ 'e' && c ≠ 'E'
  isMantissa mantissa && (mantissa.length = t.length || isExponent (t.drop (mantissa.length + 1)))

def infinities : List Text :=
  ["inf", "inff32", "inff64", "NaN", "NaNf32", "NaNf64"].map String.toList

def isFraction (t : Text) : Bool :=
  let t := (Text.before? "f32".toList t <|> Text.before? "f64".toList t).getD t
  isGrouped false t && isDecimal (t.filter (· ≠ '_'))

/-- Holds for the texts that stand for a number. -/
def isNumber (t : Text) : Bool :=
  let (_, t) := cutSign t
  (integer? t).isSome || isFraction t || infinities.contains t

/-- The counter that a text stands for: an integer of sixty-four bits, without the name of another
type. -/
def counter? (t : Text) : Option Nat := do
  let (negative, t) := cutSign t
  let (n, type) ← integer? t
  if (type.isEmpty || type = "u64".toList) && n < Nat.pow 2 64 && !(negative && n ≠ 0) then some n
  else none

end Ron.Number

namespace Ron

/-- A raw word is a name even if it is spelled like a keyword. Byte strings, bytes and characters
are told apart from the rest but not kept. -/
inductive Token
  | punct (c : Char)
  | word (t : Text)
  | rawWord (t : Text)
  | number (t : Text)
  | string (t : Text)
  | literal
  deriving DecidableEq, Repr

namespace Token

/-- The property Pattern_White_Space. -/
def isSpace (c : Char) : Bool :=
  c = ' ' || (9 ≤ c.toNat && c.toNat ≤ 13) || c = '\u0085' || c = '\u200E' || c = '\u200F' ||
    c = '\u2028' || c = '\u2029'

def isPunct (c : Char) : Bool := "()[]\x7b\x7d:,#!".toList.contains c

def isRawWordChar (c : Char) : Bool :=
  Text.continuesIdentifier c || c = '.' || c = '+' || c = '-'

/-- What follows a block comment whose opening has been read, `depth` blocks deep. -/
def afterBlock? : Nat → Text → Option Text
  | depth, '*' :: '/' :: t => if depth = 0 then some t else afterBlock? (depth - 1) t
  | depth, '/' :: '*' :: t => afterBlock? (depth + 1) t
  | depth, _ :: t => afterBlock? depth t
  | _, [] => none

/-- The digits at the head, at most `limit` of them. -/
def spanHex : Nat → Text → Text × Text
  | 0, t => ([], t)
  | _, [] => ([], [])
  | limit + 1, c :: t =>
    if Numeral.isDigit 16 c then
      let (ds, rest) := spanHex limit t
      (c :: ds, rest)
    else ([], c :: t)

def hexByte? : Text → Option (UInt8 × Text)
  | a :: b :: t => do return (UInt8.ofNat (← Numeral.read? 16 [a, b]), t)
  | _ => none

/-- The character whose remaining bytes are escaped one by one; `more` of them may still come. -/
def escapedBytes? : Nat → Bytes → Text → Option (Char × Text)
  | more, bs, t =>
    match Utf8.decode? bs with
    | some [c] => some (c, t)
    | _ =>
      match more, t with
      | more + 1, '\\' :: 'x' :: t => do
        let (b, t) ← hexByte? t
        escapedBytes? more (bs ++ [b]) t
      | _, _ => none

def charOfNat? (n : Nat) : Option Char := if n.isValidChar then some (Char.ofNat n) else none

/-- The character of an escape whose backslash has been read. An escaped line end stands for nothing,
together with the white space after it. -/
def escape? : Text → Option (Text × Text)
  | '\'' :: t => some (['\''], t)
  | '"' :: t => some (['"'], t)
  | '\\' :: t => some (['\\'], t)
  | 'n' :: t => some (['\n'], t)
  | 'r' :: t => some (['\r'], t)
  | 't' :: t => some (['\t'], t)
  | '0' :: t => some (['\x00'], t)
  | 'x' :: t => do
    let (b, t) ← hexByte? t
    let (c, t) ← escapedBytes? 3 [b] t
    return ([c], t)
  | 'u' :: '\x7b' :: t =>
    match spanHex 6 t with
    | (ds, '\x7d' :: t) => do return ([← charOfNat? (← Numeral.read? 16 ds)], t)
    | _ => none
  | '\n' :: t | '\r' :: '\n' :: t =>
    some ([], t.dropWhile fun c => c = ' ' || c = '\t' || c = '\n' || c = '\r')
  | _ => none

/-- The text up to the closing quote, and the rest. -/
def stringBody? : Nat → Text → Option (Text × Text)
  | 0, _ => none
  | _, [] => none
  | _ + 1, '"' :: t => some ([], t)
  | fuel + 1, '\\' :: t => do
    let (e, t) ← escape? t
    let (s, t) ← stringBody? fuel t
    return (e ++ s, t)
  | fuel + 1, c :: t => do
    let (s, t) ← stringBody? fuel t
    return (c :: s, t)

/-- The text up to a quote with the given hashes after it, and the rest. -/
def rawBody? (hashes : Text) : Text → Option (Text × Text)
  | [] => none
  | c :: t =>
    match if c = '"' then Text.after? hashes t else none with
    | some rest => some ([], rest)
    | none => (rawBody? hashes t).map fun (s, rest) => (c :: s, rest)

/-- A raw string, from its hashes on. -/
def rawString? (t : Text) : Option (Text × Text) :=
  let hashes := t.takeWhile (· = '#')
  match t.drop hashes.length with
  | '"' :: t => rawBody? hashes t
  | _ => none

/-- What follows the character and the apostrophe that closes it. -/
def afterChar? (t : Text) : Option Text := do
  let rest ← match t with
    | '\\' :: t => (escape? t).map Prod.snd
    | _ :: t => some t
    | [] => none
  Text.after? ['\''] rest

def isNumberChar (c : Char) : Bool := Text.continuesIdentifier c || c = '.'

/-- A number and the rest; a sign may also stand after the letter of an exponent. -/
def spanNumber : Bool → Text → Text × Text
  | _, [] => ([], [])
  | signed, c :: t =>
    if isNumberChar c || (signed && (c = '+' || c = '-')) then
      let (ds, rest) := spanNumber (c = 'e' || c = 'E') t
      (c :: ds, rest)
    else ([], c :: t)

/-- The token at the head of a text that begins with neither white space nor a comment. -/
def next? (t : Text) : Option (Token × Text) :=
  match t with
  | [] => none
  | '"' :: r => (stringBody? (r.length + 1) r).map fun (s, r) => (string s, r)
  | '\'' :: r => (afterChar? r).map fun r => (literal, r)
  | 'b' :: '\'' :: r => (afterChar? r).map fun r => (literal, r)
  | 'b' :: '"' :: r => (stringBody? (r.length + 1) r).map fun (_, r) => (literal, r)
  | 'b' :: 'r' :: '"' :: r => (rawString? ('"' :: r)).map fun (_, r) => (literal, r)
  | 'b' :: 'r' :: '#' :: r => (rawString? ('#' :: r)).map fun (_, r) => (literal, r)
  | 'r' :: '"' :: r => (rawString? ('"' :: r)).map fun (s, r) => (string s, r)
  | 'r' :: '#' :: '"' :: r => (rawString? ('#' :: '"' :: r)).map fun (s, r) => (string s, r)
  | 'r' :: '#' :: '#' :: r => (rawString? ('#' :: '#' :: r)).map fun (s, r) => (string s, r)
  | 'r' :: '#' :: r =>
    let w := r.takeWhile isRawWordChar
    if w.isEmpty then none else some (rawWord w, r.drop w.length)
  | c :: r =>
    if isPunct c then some (punct c, r)
    else if c.isDigit || c = '+' || c = '-' || c = '.' then
      let (n, rest) := spanNumber false r
      if Number.isNumber (c :: n) then some (number (c :: n), rest) else none
    else if Text.startsIdentifier c then
      let w := c :: r.takeWhile Text.continuesIdentifier
      some (word w, t.drop w.length)
    else none

def readAll : Nat → Text → Option (List Token)
  | _, [] => some []
  | 0, _ => none
  | fuel + 1, '/' :: '/' :: t => readAll fuel (t.dropWhile (· ≠ '\n'))
  | fuel + 1, '/' :: '*' :: t => do readAll fuel (← afterBlock? 0 t)
  | fuel + 1, c :: t =>
    if isSpace c then readAll fuel t
    else do
      let (token, rest) ← next? (c :: t)
      return token :: (← readAll fuel rest)

/-- The tokens of a text. Every step takes a character at least, so there are no more steps than
characters. -/
def ofText? (t : Text) : Option (List Token) := readAll t.length t

end Token

end Ron

end AffiliateLinks
