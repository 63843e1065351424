import AffiliateLinks.Ledger
import AffiliateLinks.Markup.Monetize
import AffiliateLinks.Text.Numeral

/-!
# Reading links, tallies and entries from JSON

A text may spell characters outside the basic plane as two surrogates. One surrogate alone makes the
string ill-formed, which matters only where the string is wanted.

A record may be written as an object or as the list of its fields in their order. An object's fields
may come in any order, each exactly once, and unknown ones are left aside. A plain choice is a word,
or an object with the word as its only key and null as its value.
-/

namespace AffiliateLinks

namespace Json

inductive Value
  | null
  | bool (b : Bool)
  | number (literal : Text)
  | string (t : Option Text)
  | list (vs : List Value)
  | record (fields : List (Option Text × Value))
  deriving Repr

namespace Value

def isSpace (c : Char) : Bool := c = ' ' || c = '\n' || c = '\t' || c = '\r'

def skipSpace (t : Text) : Text := t.dropWhile isSpace

def escapes : List (Char × Char) :=
  [('"', '"'), ('\\', '\\'), ('/', '/'), ('b', '\x08'), ('f', '\x0C'), ('n', '\n'), ('r', '\r'),
    ('t', '\t')]

/-- The code units of a string up to the closing quote, and the rest. Code units of escapes are kept
apart, since two of them may make a character. -/
def units? : Text → Option (List (Char ⊕ Nat) × Text)
  | '"' :: t => some ([], t)
  | '\\' :: 'u' :: a :: b :: c :: d :: t => do
    let n ← Numeral.read? 16 [a, b, c, d]
    let (us, rest) ← units? t
    return (.inr n :: us, rest)
  | '\\' :: e :: t => do
    let c ← escapes.lookup e
    let (us, rest) ← units? t
    return (.inl c :: us, rest)
  | c :: t =>
    if c.toNat < 0x20 || c = '\\' then none
    else (units? t).map fun (us, rest) => (.inl c :: us, rest)
  | [] => none

def isHigh (n : Nat) : Bool := 0xD800 ≤ n && n < 0xDC00

def isLow (n : Nat) : Bool := 0xDC00 ≤ n && n < 0xE000

/-- The text of code units, if every surrogate has its partner. -/
def pair? : List (Char ⊕ Nat) → Option Text
  | [] => some []
  | .inl c :: us => (pair? us).map (c :: ·)
  | .inr n :: .inr m :: us =>
    if isHigh n && isLow m then
      (pair? us).map (Char.ofNat (0x10000 + (n - 0xD800) * 0x400 + (m - 0xDC00)) :: ·)
    else if isHigh n || isLow n then none
    else (pair? (.inr m :: us)).map (Char.ofNat n :: ·)
  | .inr n :: us => if isHigh n || isLow n then none else (pair? us).map (Char.ofNat n :: ·)

/-- Digits without a leading zero. -/
def isWhole (t : Text) : Bool := t = ['0'] || (t.head?.any (· ≠ '0') && t.all Char.isDigit)

def isNumber (t : Text) : Bool :=
  let t := (Text.after? ['-'] t).getD t
  let mantissa := t.takeWhile fun c => c ≠ 'e' && c ≠ 'E'
  let (whole, part) := match Text.cut? '.' mantissa with
    | some (a, b) => (a, some b)
    | none => (mantissa, none)
  let exponent := t.drop (mantissa.length + 1)
  let digits := (Text.after? ['+'] exponent <|> Text.after? ['-'] exponent).getD exponent
  isWhole whole && part.all (fun p => !p.isEmpty && p.all Char.isDigit) &&
    (mantissa.length = t.length || (!digits.isEmpty && digits.all Char.isDigit))

def isNumberChar (c : Char) : Bool :=
  c.isDigit || c = '-' || c = '+' || c = '.' || c = 'e' || c = 'E'

mutual

/-- The value at the head, and the rest. -/
def readValue? : Nat → Text → Option (Value × Text)
  | 0, _ => none
  | fuel + 1, t =>
    match skipSpace t with
    | 'n' :: 'u' :: 'l' :: 'l' :: t => some (.null, t)
    | 't' :: 'r' :: 'u' :: 'e' :: t => some (.bool true, t)
    | 'f' :: 'a' :: 'l' :: 's' :: 'e' :: t => some (.bool false, t)
    | '"' :: t => (units? t).map fun (us, rest) => (.string (pair? us), rest)
    | '[' :: t =>
      match skipSpace t with
      | ']' :: t => some (.list [], t)
      | t => (readItems? fuel t).map fun (vs, rest) => (.list vs, rest)
    | '\x7b' :: t =>
      match skipSpace t with
      | '\x7d' :: t => some (.record [], t)
      | t => (readFields? fuel t).map fun (fs, rest) => (.record fs, rest)
    | t =>
      let n := t.takeWhile isNumberChar
      if isNumber n then some (.number n, t.drop n.length) else none

def readItems? : Nat → Text → Option (List Value × Text)
  | 0, _ => none
  | fuel + 1, t => do
    let (v, t) ← readValue? fuel t
    match skipSpace t with
    | ',' :: t =>
      let (vs, t) ← readItems? fuel t
      return (v :: vs, t)
    | ']' :: t => return ([v], t)
    | _ => none

def readFields? : Nat → Text → Option (List (Option Text × Value) × Text)
  | 0, _ => none
  | fuel + 1, t =>
    match skipSpace t with
    | '"' :: t => do
      let (us, t) ← units? t
      match skipSpace t with
      | ':' :: t =>
        let (v, t) ← readValue? fuel t
        match skipSpace t with
        | ',' :: t =>
          let (fs, t) ← readFields? fuel t
          return ((pair? us, v) :: fs, t)
        | '\x7d' :: t => return ([(pair? us, v)], t)
        | _ => none
      | _ => none
    | _ => none

end

/-- The value that a text stands for. Every call but the first takes a character, and no character
takes more than two calls. -/
def ofText? (t : Text) : Option Value := do
  let (v, rest) ← readValue? (2 * t.length + 1) t
  if (skipSpace rest).isEmpty then some v else none

end Value

end Json

namespace Json.Value

def text? : Value → Option Text
  | string t => t
  | _ => none

/-- An unsigned integer of sixty-four bits, written without point or exponent. -/
def counter? : Value → Option Nat
  | number t => (Numeral.read? 10 t).filter (· < Nat.pow 2 64)
  | _ => none

def word? : Value → Option Text
  | string t => t
  | record [(k, null)] => k
  | _ => none

/-- The values of the named fields, in the order of the names. -/
def fields? (names : List String) : Value → Option (List Value)
  | list vs => if vs.length = names.length then some vs else none
  | record fs => do
    let fs ← fs.mapM fun (k, v) => do return (← k, v)
    names.mapM fun n =>
      match fs.filter fun f => f.1 = n.toList with
      | [(_, v)] => some v
      | _ => none
  | _ => none

def tally? (v : Value) : Option Tally := do
  match ← v.fields? ["amazon", "skimlinks", "passthrough", "skipped"] with
  | [a, s, p, k] => return ⟨← a.counter?, ← s.counter?, ← p.counter?, ← k.counter?⟩
  | _ => none

def method? (v : Value) : Option Method := do Method.ofWord? (← v.word?)

def disclosure? (v : Value) : Option Disclosure := do
  let w ← v.word?
  [Disclosure.short, Disclosure.long].find? fun d => d.word = w

def link? (v : Value) : Option Link := do
  match ← v.fields? ["original_url", "monetized_url", "method", "merchant"] with
  | [o, m, k, d] => return ⟨← o.text?, ← m.text?, ← k.method?, ← d.text?⟩
  | _ => none

def entry? (v : Value) : Option LedgerEntry := do
  match ← v.fields? ["source", "fingerprint", "stats"] with
  | [s, f, t] => return ⟨← s.text?, ← f.text?, ← t.tally?⟩
  | _ => none

end Json.Value

end AffiliateLinks
