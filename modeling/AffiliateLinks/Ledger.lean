import AffiliateLinks.Files.System
import AffiliateLinks.Output.Directory
import AffiliateLinks.Ron.Value
import AffiliateLinks.Tree

/-!
# The ledger

The ledger remembers, for each source, the page that was last made of it. Entries stay in the order
in which their sources were first recorded. Main statement: after a record, the source has just that
entry, and the entries of all other sources are as before.

A ledger is kept in a hidden file of the output directory. A file that cannot be read, or that is not
a ledger's, counts as an empty ledger, and a warning says so.
-/

namespace AffiliateLinks

structure LedgerEntry where
  source : Text
  fingerprint : Text
  tally : Tally
  deriving DecidableEq, Repr

abbrev Ledger := List LedgerEntry

namespace Ledger

def containsOutput (l : Ledger) (fingerprint : Text) : Bool :=
  l.any fun e => e.fingerprint = fingerprint

def entryFor? (l : Ledger) (source : Text) : Option LedgerEntry :=
  l.find? fun e => e.source = source

/-- Puts an entry in the place of the first one with its source, or at the end. -/
def record (e : LedgerEntry) : Ledger → Ledger
  | [] => [e]
  | d :: ds => if d.source = e.source then e :: ds else d :: record e ds

theorem entryFor?_record (e : LedgerEntry) (l : Ledger) (source : Text) :
    entryFor? (record e l) source = if e.source = source then some e else entryFor? l source := by
  induction l with
  | nil =>
    by_cases h : e.source = source <;> simp [record, entryFor?, h]
  | cons d ds ih =>
    simp only [entryFor?, record] at ih ⊢
    by_cases hd : d.source = e.source
    · by_cases h : e.source = source
      · simp [hd, h]
      · simp [hd, h]
    · by_cases hs : d.source = source
      · have : e.source ≠ source := fun h => hd (hs.trans h.symm)
        rw [if_neg hd]
        simp [hs, this]
      · rw [if_neg hd]
        simp [hs, ih]

end Ledger

namespace LedgerEntry

open Ron (Value Extensions)

def toTree (e : LedgerEntry) : Tree :=
  .record [("source".toList, .text e.source), ("fingerprint".toList, .text e.fingerprint),
    ("stats".toList, Tree.ofTally e.tally)]

def tally? (e : Extensions) (v : Value) : Option Tally := do
  let fs ← v.record? e "RunStats".toList
  return ⟨← Value.required? fs "amazon" Value.counter?, ← Value.required? fs "skimlinks" Value.counter?,
    ← Value.required? fs "passthrough" Value.counter?, ← Value.required? fs "skipped" Value.counter?⟩

def ofValue? (e : Extensions) (v : Value) : Option LedgerEntry := do
  let fs ← v.record? e "LedgerEntry".toList
  return ⟨← Value.required? fs "source" Value.text?, ← Value.required? fs "fingerprint" Value.text?,
    ← Value.required? fs "stats" (tally? e)⟩

end LedgerEntry

namespace Ledger

open Ron (Value)

/-- The text of the ledger's file. -/
def render (l : Ledger) : Text :=
  Ron.render (.record [("processed".toList, .list (l.map LedgerEntry.toTree))])

/-- The ledger of a file's text, if it is well-formed. -/
def read? (t : Text) : Option Ledger := do
  let (e, v) ← Value.ofText? t
  let fs ← v.record? e "PersistedLedger".toList
  Value.required? fs "processed" fun v => do (← v.list?).mapM (LedgerEntry.ofValue? e)

def fileName : Text := ".monetizer_ledger.ron".toList

def path (dir : Path) : Path := dir.join (Path.ofText fileName)

def load (dir : Path) (fs : FileSystem) : Logged Ledger := do
  let quoted := (path dir).quoted
  match fs.readText (path dir) with
  | .error .notFound => return []
  | .error e =>
    Logged.tell .warn .ledger ("Failed to read ledger from ".toList ++ quoted ++ ": ".toList ++
      e.message)
    return []
  | .ok t =>
    match read? t with
    | none =>
      Logged.tell .warn .ledger ("Failed to parse ledger from ".toList ++ quoted ++ ": ".toList ++
        Ron.malformed)
      return []
    | some ledger =>
      Logged.tell .info .ledger ("Loaded ledger with ".toList ++ Numeral.decimal ledger.length ++
        " processed documents from ".toList ++ quoted)
      return ledger

/-- Writes the ledger into a directory, which is made if it is not there. -/
def save (ledger : Ledger) (dir : Path) : Work WriteError Path := do
  let d ← Work.perform (OutputDirectory.prepare dir)
  Work.perform (d.write fileName ledger.render)

end Ledger

end AffiliateLinks
