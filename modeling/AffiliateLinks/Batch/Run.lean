import AffiliateLinks.Batch.Report

/-!
# Batch runs

A batch processes each of its sources once. What comes of it when one worker does all is said first.

Several workers share the sources of a batch. A worker that has nothing to do claims the next index
from a common counter; it stops when the counter has passed the last source. The workers take turns
in any order, and a turn is one claim, one action of the document in work, or its completion.
-/

namespace AffiliateLinks.Batch

/-- At least one worker, and no more than there is work for. -/
def workerCount (settings : BatchSettings) (sources : List Source) : Nat :=
  min (max settings.workers 1) (max sources.length 1)

/-- The first worker's number. The thread that starts the batch is number one. -/
def firstWorker : Nat := 2

def run (sources : List Source) (config : Config) (ledger : Ledger) (settings : BatchSettings) :
    WithLog Line BatchReport :=
  let results := sources.map fun s => (s, Document.ofSource s config ledger settings)
  let actions := results.flatMap fun (s, d) => Document.actions s d.log
  ⟨⟨results.map fun (_, d) => d.value⟩, ((Thread.start firstWorker).run actions).2⟩

/-- A document in work: its index, what the worker has still to do for it, and the result. -/
structure Task where
  index : Nat
  actions : List Action
  document : Document

inductive Phase
  | free
  | busy (task : Task)
  | stopped

structure Worker where
  thread : Thread
  phase : Phase
  completed : List (Nat × Document)

/-- The counter of claims, the workers, and the lines that they have logged. -/
structure Floor where
  next : Nat
  workers : List Worker
  log : List Line

namespace Floor

def opening (workers : Nat) : Floor where
  next := 0
  workers := (List.range workers).map fun n => ⟨Thread.start (firstWorker + n), .free, []⟩
  log := []

end Floor

/-- The work that a batch consists of. -/
structure Job where
  sources : List Source
  config : Config
  ledger : Ledger
  settings : BatchSettings

namespace Job

def task (j : Job) (index : Nat) (s : Source) : Task :=
  let d := Document.ofSource s j.config j.ledger j.settings
  ⟨index, Document.actions s d.log, d.value⟩

/-- One turn of a worker, when the counter stands at `next`: the counter after it, the worker, and
the lines that it logged. -/
def turn (j : Job) (next : Nat) (w : Worker) : Nat × Worker × List Line :=
  match w.phase with
  | .stopped => (next, w, [])
  | .free =>
    match j.sources[next]? with
    | some s => (next + 1, { w with phase := .busy (j.task next s) }, [])
    | none => (next + 1, { w with phase := .stopped }, [])
  | .busy ⟨index, [], document⟩ =>
    (next, { w with phase := .free, completed := w.completed ++ [(index, document)] }, [])
  | .busy ⟨index, a :: as, document⟩ =>
    let (thread, lines) := w.thread.act a
    (next, { w with thread, phase := .busy ⟨index, as, document⟩ }, lines)

/-- A turn of the worker of this number, if there is one. -/
def advance (j : Job) (f : Floor) (worker : Nat) : Floor :=
  match f.workers[worker]? with
  | none => f
  | some w =>
    let (next, w, lines) := j.turn f.next w
    { next, workers := f.workers.set worker w, log := f.log ++ lines }

/-- The workers take turns in the order of a schedule. -/
def runSchedule (j : Job) (schedule : List Nat) : Floor :=
  schedule.foldl j.advance (Floor.opening (workerCount j.settings j.sources))

end Job

namespace Floor

def isDone (f : Floor) : Prop := ∀ w ∈ f.workers, w.phase = .stopped

def insertByIndex (d : Nat × Document) : List (Nat × Document) → List (Nat × Document)
  | [] => [d]
  | e :: es => if d.1 < e.1 then d :: e :: es else e :: insertByIndex d es

/-- What the workers have completed, in the order of the sources. -/
def report (f : Floor) : BatchReport :=
  ⟨((f.workers.flatMap Worker.completed).foldl (fun ds d => insertByIndex d ds) []).map Prod.snd⟩

end Floor

end AffiliateLinks.Batch
