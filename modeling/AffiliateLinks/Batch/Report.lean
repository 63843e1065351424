import AffiliateLinks.Batch.Document
import AffiliateLinks.Files.System
import AffiliateLinks.Output.Directory
import AffiliateLinks.Text.Numeral
import AffiliateLinks.Tree

/-!
# Batch reports

The documents of a batch in the order of their sources, with counts of what became of them. The
monetized documents of a report are written, each under its name. All others leave alone what was
written under their names before.

The times in a summary are fractions, rounded to fifty-three binary digits and written with a fixed
number of decimal places. Both ways a tie goes to the even neighbour.
-/

namespace AffiliateLinks

structure Fraction where
  num : Nat
  den : Nat
  deriving DecidableEq, Repr

namespace Fraction

def ofNat (n : Nat) : Fraction := ⟨n, 1⟩

/-- The nearest whole number. -/
def round (f : Fraction) : Nat :=
  let q := f.num / f.den
  let r := f.num % f.den
  if 2 * r < f.den then q
  else if f.den < 2 * r then q + 1
  else if q % 2 = 0 then q
  else q + 1

/-- The fraction times a power of two. -/
def scale (f : Fraction) (power : Int) : Fraction :=
  ⟨f.num * Nat.pow 2 power.toNat, f.den * Nat.pow 2 (-power).toNat⟩

def binaryDigits : Nat := 53

/-- The nearest fraction of as many binary digits as are kept. -/
def toBinary (f : Fraction) : Fraction :=
  if f.num = 0 then ofNat 0
  else
    let power : Int := binaryDigits - 1 + f.den.log2 - f.num.log2
    let g := f.scale power
    let power := if g.num < Nat.pow 2 (binaryDigits - 1) * g.den then power + 1 else power
    (ofNat (f.scale power).round).scale (-power)

def add (f g : Fraction) : Fraction := ⟨f.num * g.den + g.num * f.den, f.den * g.den⟩

/-- A quotient. It is zero where the divisor is. -/
def div (f g : Fraction) : Fraction :=
  if g.num = 0 then ofNat 0 else ⟨f.num * g.den, f.den * g.num⟩

/-- The decimal numeral with this many places behind the point. -/
def fixed (places : Nat) (f : Fraction) : Text :=
  let n := round ⟨f.num * Nat.pow 10 places, f.den⟩
  let tail := Numeral.decimal (n % Nat.pow 10 places)
  Numeral.decimal (n / Nat.pow 10 places) ++ '.' :: List.replicate (places - tail.length) '0' ++ tail

end Fraction

structure BatchReport where
  documents : List Document
  deriving DecidableEq, Repr

namespace BatchReport

def count (r : BatchReport) (p : Outcome → Bool) : Nat := r.documents.countP fun d => p d.outcome

def monetized (r : BatchReport) : Nat := r.count Outcome.isMonetized

def alreadyProcessed (r : BatchReport) : Nat := r.count Outcome.isAlreadyProcessed

def failed (r : BatchReport) : Nat := r.count Outcome.isFailed

def totals (r : BatchReport) : Tally := r.documents.foldl (fun t d => t.add d.outcome.tally) .zero

/-- The ledger after every monetized document has been recorded. -/
def recordInto (r : BatchReport) (ledger : Ledger) : Ledger :=
  (r.documents.filterMap Document.entry?).foldl (fun l e => l.record e) ledger

def nanosecondsPerSecond : Nat := 1000000000

/-- A time in seconds, each step of the way rounded to a binary fraction. -/
def seconds (nanoseconds : Nat) : Fraction :=
  let whole := Fraction.ofNat (nanoseconds / nanosecondsPerSecond)
  let rest : Fraction := ⟨nanoseconds % nanosecondsPerSecond, nanosecondsPerSecond⟩
  (whole.add rest.toBinary).toBinary

/-- The report for a reader, when the batch took this many nanoseconds. -/
def summary (r : BatchReport) (elapsed : Nat) : Text :=
  let total := r.documents.length
  let time := seconds elapsed
  let throughput := ((Fraction.ofNat total).div time).toBinary
  let line (name : String) (value : Text) : Text := '\n' :: name.toList ++ value
  "Monetization Summary\n====================".toList ++
    line "Documents:         " (Numeral.decimal total) ++
    line "Monetized:         " (Numeral.decimal r.monetized) ++
    line "Already processed: " (Numeral.decimal r.alreadyProcessed) ++
    line "Failed:            " (Numeral.decimal r.failed) ++
    line "Links:             " (r.totals.render ++ " (total ".toList ++
      Numeral.decimal r.totals.total ++ [')']) ++
    line "Duration:          " (time.fixed 2 ++ ['s']) ++
    line "Throughput:        " (throughput.fixed 1 ++ " docs/sec".toList)

def documentTree (d : Document) : Tree :=
  let status (word : String) : Text × Tree := ("status".toList, .text word.toList)
  .record (("source".toList, .text d.source) :: match d.outcome with
    | .monetized _ tally _ => [status "monetized", ("stats".toList, Tree.ofTally tally)]
    | .alreadyProcessed => [status "already_processed", ("stats".toList, Tree.ofTally .zero)]
    | .failed cause => [status "failed", ("error".toList, .text cause.message)])

/-- The report for a program. -/
def toTree (r : BatchReport) : Tree :=
  .record [("documents".toList, .list (r.documents.map documentTree)),
    ("totals".toList, Tree.ofTally r.totals)]

end BatchReport

namespace OutputDirectory

def writeDocument (d : OutputDirectory) (name content : Text) : Work WriteError Path :=
  Work.perform (d.write name content)

def writeDocuments (d : OutputDirectory) : List (Document × Text) → Work WriteError (List Path)
  | [] => return []
  | (document, name) :: rest =>
    match document.outcome with
    | .monetized html tally _ => do
      let path ← d.writeDocument name html
      Work.tell .info .output ("wrote ".toList ++ path.display ++ " from ".toList ++
        document.source ++ " (".toList ++ tally.render ++ [')'])
      return path :: (← d.writeDocuments rest)
    | _ => d.writeDocuments rest

/-- The paths of the documents that were written. Each document has one name. -/
def writeReport (d : OutputDirectory) (r : BatchReport) (names : List Text) :
    Work WriteError (List Path) :=
  if names.length ≠ r.documents.length then
    throw (.nameCount names.length r.documents.length)
  else d.writeDocuments (r.documents.zip names)

end OutputDirectory

end AffiliateLinks
