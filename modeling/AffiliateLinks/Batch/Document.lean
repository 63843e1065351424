import AffiliateLinks.Files.System
import AffiliateLinks.Fingerprint
import AffiliateLinks.Ledger
import AffiliateLinks.Markup.Monetize

/-!
# Documents

A source is a page that a label names, or the reason why there is none. What becomes of it is a
document: a monetized page, nothing when the page is one that the ledger remembers, or nothing
because the source has no page.
-/

namespace AffiliateLinks

inductive SourceError
  | unreadable (path : Path) (cause : FileError)
  | notUtf8 (path : Path)
  deriving DecidableEq, Repr

def SourceError.message : SourceError → Text
  | unreadable path cause =>
    "failed to read document ".toList ++ path.quoted ++ ": ".toList ++ cause.message
  | notUtf8 path => "document ".toList ++ path.quoted ++ " is not valid UTF-8".toList

structure Source where
  label : Text
  page : Except SourceError Text

namespace Source

def ofText (label html : Text) : Source := ⟨label, .ok html⟩

/-- The page in a file, labelled with its path. -/
def ofFile (fs : FileSystem) (path : Path) : Source where
  label := path.display
  page :=
    match fs.read path with
    | .error cause => .error (.unreadable path cause)
    | .ok content =>
      match Utf8.decode? content with
      | some html => .ok html
      | none => .error (.notUtf8 path)

end Source

structure BatchSettings where
  workers : Nat := 1
  /-- Monetize pages again that the ledger remembers. -/
  force : Bool := false
  /-- Stands on top of every page with at least one monetized link. -/
  disclosure : Option Disclosure := none
  brand : Option Text := none
  deriving DecidableEq, Repr

inductive Outcome
  | monetized (html : Text) (tally : Tally) (fingerprint : Text)
  | alreadyProcessed
  | failed (cause : SourceError)
  deriving DecidableEq, Repr

structure Document where
  source : Text
  outcome : Outcome
  deriving DecidableEq, Repr

namespace Outcome

def isMonetized : Outcome → Bool
  | monetized .. => true
  | _ => false

def isAlreadyProcessed : Outcome → Bool
  | alreadyProcessed => true
  | _ => false

def isFailed : Outcome → Bool
  | failed _ => true
  | _ => false

/-- The counts of a monetized page, and of nothing else. -/
def tally : Outcome → Tally
  | monetized _ tally _ => tally
  | _ => .zero

/-- The page with its disclosure, as it is to be written. -/
def ofPage (page : MonetizedPage) (disclosure : Option Disclosure) : Outcome :=
  let html := match disclosure with
    | some d => if 0 < page.tally.monetized then d.html ++ page.html else page.html
    | none => page.html
  .monetized html page.tally (fingerprint html)

end Outcome

namespace Document

def ofSource (s : Source) (config : Config) (ledger : Ledger) (settings : BatchSettings) :
    Logged Document := do
  match s.page with
  | .error cause =>
    Logged.tell .warn .batch cause.message
    return ⟨s.label, .failed cause⟩
  | .ok html =>
    if !settings.force && ledger.containsOutput (fingerprint html) then
      Logged.tell .info .batch "already monetized; skipping".toList
      return ⟨s.label, .alreadyProcessed⟩
    else
      let page ← MonetizedPage.ofHtml html config settings.brand
      return ⟨s.label, Outcome.ofPage page settings.disclosure⟩

/-- What a thread does while this is logged about a source: it takes the source's label first and
drops it at the end. -/
def actions (s : Source) (log : List Message) : List Action :=
  .enter s.label :: log.map Action.say ++ [.leave]

/-- What the ledger is to remember of a document. -/
def entry? (d : Document) : Option LedgerEntry :=
  match d.outcome with
  | .monetized _ tally fingerprint => some ⟨d.source, fingerprint, tally⟩
  | _ => none

end Document

end AffiliateLinks
