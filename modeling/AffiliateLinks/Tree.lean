import AffiliateLinks.Link.Method
import AffiliateLinks.Text.Quoted

/-!
# Trees

What is written to a file or printed in a structured form: counters, texts, lists of these, and
records with named fields. In both notations each item of a list and each field of a record has a
line of its own. RON indents it by four spaces for each group around it, with a comma behind it. JSON
indents it by two, and has the fields of a record in ascending order of their names.
-/

namespace AffiliateLinks

inductive Tree
  | counter (n : Nat)
  | text (t : Text)
  | list (ts : List Tree)
  | record (fields : List (Text × Tree))

namespace Tree

def ofTally (t : Tally) : Tree :=
  .record [("amazon".toList, .counter t.amazon), ("skimlinks".toList, .counter t.skimlinks),
    ("passthrough".toList, .counter t.passthrough), ("skipped".toList, .counter t.skipped)]

end Tree

namespace Ron

def indent (depth : Nat) : Text := List.replicate (4 * depth) ' '

/-- A group with its marks, from the lines inside it. -/
def group (depth : Nat) (opening closing : Char) (lines : Text) : Text :=
  if lines.isEmpty then [opening, closing]
  else opening :: '\n' :: lines ++ indent depth ++ [closing]

mutual

def write (depth : Nat) : Tree → Text
  | .counter n => Numeral.decimal n
  | .text t => Quoted.strict t
  | .list ts => group depth '[' ']' (writeItems (depth + 1) ts)
  | .record fs => group depth '(' ')' (writeFields (depth + 1) fs)

def writeItems (depth : Nat) : List Tree → Text
  | [] => []
  | t :: ts => indent depth ++ write depth t ++ [',', '\n'] ++ writeItems depth ts

def writeFields (depth : Nat) : List (Text × Tree) → Text
  | [] => []
  | (k, t) :: fs => indent depth ++ k ++ [':', ' '] ++ write depth t ++ [',', '\n'] ++
    writeFields depth fs

end

def render (t : Tree) : Text := write 0 t

end Ron

namespace Json

def escape (c : Char) : Text :=
  match c with
  | '"' => ['\\', '"']
  | '\\' => ['\\', '\\']
  | '\n' => ['\\', 'n']
  | '\r' => ['\\', 'r']
  | '\t' => ['\\', 't']
  | '\x08' => ['\\', 'b']
  | '\x0C' => ['\\', 'f']
  | c => if c.toNat < 0x20 then "\\u00".toList ++ Numeral.hexByte c.toNat.toUInt8 else [c]

def quote (t : Text) : Text := '"' :: t.flatMap escape ++ ['"']

def indent (depth : Nat) : Text := List.replicate (2 * depth) ' '

def insertField (f : Text × Tree) : List (Text × Tree) → List (Text × Tree)
  | [] => [f]
  | g :: gs => if Text.before f.1 g.1 then f :: g :: gs else g :: insertField f gs

mutual

/-- The tree with the fields of every record in ascending order. -/
def arrange : Tree → Tree
  | .counter n => .counter n
  | .text t => .text t
  | .list ts => .list (arrangeItems ts)
  | .record fs => .record (arrangeFields fs)

def arrangeItems : List Tree → List Tree
  | [] => []
  | t :: ts => arrange t :: arrangeItems ts

def arrangeFields : List (Text × Tree) → List (Text × Tree)
  | [] => []
  | (k, t) :: fs => insertField (k, arrange t) (arrangeFields fs)

end

/-- A group with its marks, from the lines inside it, of which the first has no comma before it. -/
def group (depth : Nat) (opening closing : Char) (lines : List Text) : Text :=
  if lines.isEmpty then [opening, closing]
  else opening :: '\n' :: List.intercalate [',', '\n'] (lines.map (indent (depth + 1) ++ ·)) ++
    '\n' :: indent depth ++ [closing]

mutual

def write (depth : Nat) : Tree → Text
  | .counter n => Numeral.decimal n
  | .text t => quote t
  | .list ts => group depth '[' ']' (writeItems (depth + 1) ts)
  | .record fs => group depth '\x7b' '\x7d' (writeFields (depth + 1) fs)

def writeItems (depth : Nat) : List Tree → List Text
  | [] => []
  | t :: ts => write depth t :: writeItems depth ts

def writeFields (depth : Nat) : List (Text × Tree) → List Text
  | [] => []
  | (k, t) :: fs => (quote k ++ [':', ' '] ++ write depth t) :: writeFields depth fs

end

def render (t : Tree) : Text := write 0 (arrange t)

end Json

end AffiliateLinks
