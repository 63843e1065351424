import AffiliateLinks.Batch.Report
import AffiliateLinks.Batch.Run
import AffiliateLinks.Command.Arguments
import AffiliateLinks.Config.Settings
import AffiliateLinks.Ledger
import AffiliateLinks.Output.Directory
import AffiliateLinks.Tree

/-!
# Running the command

A run takes arguments, an environment, the standard input and a file system to an exit code, what is
printed, and the file system afterwards. What is printed may tell how long the run took. A failure
tells what went wrong and then, from the nearest to the farthest, what led to it.
-/

namespace AffiliateLinks.Command

structure Failure where
  message : Text
  causes : List Text := []
  deriving DecidableEq, Repr

namespace Failure

def ofSettings (e : SettingsError) : Failure := ⟨e.message, e.causes⟩

def ofConfig (e : ConfigError) : Failure := ⟨"invalid router configuration".toList, [e.message]⟩

def ofWrite (e : WriteError) : Failure := ⟨e.message, e.causes⟩

/-- A write error that made a larger task fail. -/
def because (task : String) (e : WriteError) : Failure := ⟨task.toList, e.message :: e.causes⟩

def ofLedgerWrite (e : WriteError) : Failure :=
  ⟨"failed to save ledger".toList,
    ("failed to write ledger: ".toList ++ e.message) :: e.message :: e.causes⟩

def numbered : Nat → List Text → Text
  | _, [] => []
  | n, c :: cs =>
    let number := Numeral.decimal n
    List.replicate (5 - number.length) ' ' ++ number ++ [':', ' '] ++ c ++ '\n' :: numbered (n + 1) cs

/-- Causes are numbered where there are several. -/
def render (f : Failure) : Text :=
  "Error: ".toList ++ f.message ++ '\n' :: match f.causes with
    | [] => []
    | [c] => "\nCaused by:\n    ".toList ++ c ++ ['\n']
    | cs => "\nCaused by:\n".toList ++ numbered 0 cs

end Failure

/-- What a run has to say at its end. -/
structure Answer where
  /-- For the standard output, when the run took this many nanoseconds. -/
  result : Nat → Text := fun _ => []
  /-- For the standard error. -/
  remark : Text := []
  failure : Option Failure := none

structure RunResult where
  code : Nat
  stdout : Nat → Text
  stderr : Text
  files : FileSystem

namespace Options

def batchSettings (o : Options) : BatchSettings where
  workers := max (o.jobs.getD 1) 1
  force := o.force
  disclosure := o.disclosure
  brand := o.brand

def configuration (o : Options) (env : Environment) : Work Failure Config := do
  let settings ← match o.config with
    | some path =>
      some <$> Work.inspect fun fs => (Settings.load path fs).mapError Failure.ofSettings
    | none => pure none
  match Settings.config settings env with
  | .ok config => return config
  | .error e => throw (.ofConfig e)

def runBatch (sources : List Source) (config : Config) (ledger : Ledger)
    (settings : BatchSettings) : Work Failure BatchReport := do
  let r := Batch.run sources config ledger settings
  Work.log r.log
  return r.value

def statsText (r : BatchReport) : Text := Json.render r.toTree ++ ['\n']

/-- Monetizes the standard input. No ledger is asked or changed. -/
def runStdin (o : Options) (config : Config) (stdin : Bytes) : Work Failure Answer := do
  match Utf8.decode? stdin with
  | none =>
    throw ⟨"failed to read HTML from stdin".toList, [FileError.notUtf8.message]⟩
  | some html =>
    let source := Source.ofText "stdin".toList html
    let report ← runBatch [source] config [] { o.batchSettings with force := true }
    let pages := report.documents.flatMap fun d => match d.outcome with
      | .monetized html _ _ => html
      | _ => []
    if o.statsJson then return { result := fun _ => pages, remark := statsText report }
    else
      Work.tell .info .command report.totals.render
      return { result := fun _ => pages }

def failedDocuments (r : BatchReport) : List Message :=
  r.documents.filterMap fun d => match d.outcome with
    | .failed cause => some ⟨.warn, .command, d.source ++ [':', ' '] ++ cause.message⟩
    | _ => none

/-- Monetizes files into the output directory. The names are checked before anything is done, and
the ledger is saved after the last document has been written. -/
def runFiles (o : Options) (config : Config) : Work Failure Answer := do
  let names ← Work.inspect fun _ => (outputNames o.inputs).mapError Failure.ofWrite
  let dir ← Work.mapError Failure.ofWrite (Work.perform (OutputDirectory.prepare o.outDir))
  let loaded ← Work.inspect fun fs => .ok (Ledger.load o.outDir fs)
  Work.log (loaded.log.map Work.mainThread.line)
  let sources ← Work.inspect fun fs => .ok (o.inputs.map (Source.ofFile fs))
  let report ← runBatch sources config loaded.value o.batchSettings
  let _ ← Work.mapError (Failure.because "failed to write monetized documents")
    (dir.writeReport report names)
  if 0 < report.monetized then
    let _ ← Work.mapError Failure.ofLedgerWrite ((report.recordInto loaded.value).save o.outDir)
  let result := fun elapsed =>
    if o.statsJson then statsText report else report.summary elapsed ++ ['\n']
  if report.failed = 0 then return { result }
  else
    Work.log ((failedDocuments report).map Work.mainThread.line)
    let message := Numeral.decimal report.failed ++ " of ".toList ++
      Numeral.decimal report.documents.length ++ " documents failed".toList
    return { result, failure := some ⟨message, []⟩ }

def perform (o : Options) (env : Environment) (stdin : Bytes) : Work Failure Answer := do
  let config ← o.configuration env
  if o.readsStdin then o.runStdin config stdin else o.runFiles config

end Options

/-- A log file in its place, empty at first, or a warning that there is none. -/
def openLog (path : Option Path) (fs : FileSystem) : Option Place × Text × FileSystem :=
  match path with
  | none => (none, [], fs)
  | some path =>
    match fs.writable path with
    | .ok place => (some place, [], fs.put place (.file []))
    | .error e =>
      (none, "Warning: Could not create log file at ".toList ++ path.quoted ++ ": ".toList ++
        e.message ++ ['\n'], fs)

def logText (threshold : Level) (lines : List Line) : Text :=
  (lines.filter fun l => threshold.admits l.message.level).flatMap fun l => l.renderFull ++ ['\n']

/-- Lines go into the log file, unless a document has taken its place. -/
def closeLog (place : Option Place) (text : Text) (fs : FileSystem) : FileSystem :=
  match place with
  | none => fs
  | some place =>
    if fs.get? place = some (.file []) then fs.put place (.file (Utf8.encode text)) else fs

/-- Does what the options ask for. The log file tells at least what is of interest to a reader, also
when the terminal is quiet. -/
def Options.run (o : Options) (env : Environment) (stdin : Bytes) (fs : FileSystem) : RunResult :=
  let (logPlace, warning, fs) := openLog o.logFile fs
  let done := (o.perform env stdin).run fs
  let answer := match done.value.1 with
    | .ok answer => answer
    | .error failure => { failure := some failure }
  let ending := match answer.failure with
    | some failure => failure.render
    | none => []
  { code := if answer.failure.isSome then 1 else 0
    stdout := answer.result
    stderr := warning ++ logText o.level done.log ++ answer.remark ++ ending
    files := closeLog logPlace (logText (o.level.max .info) done.log) done.value.2 }

def run (args : List Bytes) (env : Environment) (stdin : Bytes) (fs : FileSystem) : RunResult :=
  match Options.ofArguments args env with
  | .ok o => o.run env stdin fs
  | .error .helpAsked => ⟨0, fun _ => usage, [], fs⟩
  | .error .versionAsked => ⟨0, fun _ => version, [], fs⟩
  | .error e => ⟨2, fun _ => [], e.render, fs⟩

end AffiliateLinks.Command
