import AffiliateLinks.Proofs.WorkerTurns

/-!
# Events of threads

What is logged depends on the labels of threads, which the workers change as they go. The turns of the
workers are a sequence of events, each the action of one thread for one document, and the labels of all
threads of the program follow from the events. Every worker keeps to its course: what it has logged and
what it has still to log make up the lines about the documents that it holds, and after them it is
unlabelled.
-/

namespace AffiliateLinks

namespace Thread

variable (t : Thread)

lemma run_cons (a : Action) (as : List Action) : t.run (a :: as) =
    (((t.act a).1.run as).1, (t.act a).2 ++ ((t.act a).1.run as).2) := rfl

lemma run_append (as bs : List Action) : t.run (as ++ bs) =
    (((t.run as).1.run bs).1, (t.run as).2 ++ ((t.run as).1.run bs).2) := by
  induction as generalizing t with
  | nil => rfl
  | cons a as ih => simp only [List.cons_append, run_cons, ih, List.append_assoc]

lemma run_say (ms : List Message) : t.run (ms.map Action.say) = (t, ms.map t.line) := by
  induction ms with
  | nil => rfl
  | cons m ms ih =>
    rw [List.map_cons, run_cons, List.map_cons]
    change ((t.run (ms.map Action.say)).1, [t.line m] ++ (t.run (ms.map Action.say)).2) = _
    rw [ih]
    rfl

lemma number_act (a : Action) : (t.act a).1.number = t.number := by
  cases a with
  | leave =>
    rw [act]
    split <;> rfl
  | _ => rfl

lemma number_run (as : List Action) : (t.run as).1.number = t.number := by
  induction as generalizing t with
  | nil => rfl
  | cons a as ih => exact (ih _).trans (number_act t a)

lemma thread_of_mem_act {a : Action} {l : Line} (h : l ∈ (t.act a).2) : l.thread = t.number := by
  cases a with
  | say m => rw [List.mem_singleton.1 h, line]
  | _ => cases h

/-- The lines of a thread's work on a source are labelled with the source, and the label is gone at the
end. -/
lemma run_actions (n : Nat) (s : Source) (log : List Message) :
    (start n).run (Document.actions s log) =
      (start n, log.map fun m => ⟨n, some s.label, m⟩) := by
  rw [Document.actions, List.cons_append, run_cons, run_append]
  dsimp only [act]
  rw [run_say]
  change (start n, [] ++ (log.map _ ++ [])) = _
  rw [List.append_nil]
  rfl

end Thread

namespace Batch

/-- The threads of a program by their numbers. -/
abbrev Threads := Nat → Thread

/-- An action of a thread, and the index of the document that the thread has in work. -/
structure Event where
  thread : Nat
  index : Nat
  action : Action

/-- The threads after some events, and the lines that are logged, each beside the index of the document
that its thread had in work. An event changes no thread but its own. -/
def Threads.run (ts : Threads) : List Event → Threads × List (Nat × Line)
  | [] => (ts, [])
  | e :: es =>
    let (t, lines) := (ts e.thread).act e.action
    let (ts, rest) := run (Function.update ts e.thread t) es
    (ts, lines.map (fun l => (e.index, l)) ++ rest)

lemma Threads.run_append (ts : Threads) (es es' : List Event) : ts.run (es ++ es') =
    (((ts.run es).1.run es').1, (ts.run es).2 ++ ((ts.run es).1.run es').2) := by
  induction es generalizing ts with
  | nil => rfl
  | cons e es ih =>
    change ((run _ (es ++ es')).1, _ ++ (run _ (es ++ es')).2) = _
    rw [ih, ← List.append_assoc]
    rfl

lemma Threads.run_singleton (ts : Threads) (e : Event) : ts.run [e] =
    (Function.update ts e.thread ((ts e.thread).act e.action).1,
      ((ts e.thread).act e.action).2.map fun l => (e.index, l)) :=
  Prod.ext rfl (List.append_nil _)

/-- What a worker does in its turn for the document that it has in work. -/
def Worker.event? (w : Worker) : Option Event :=
  match w.phase with
  | .busy ⟨index, a :: _, _⟩ => some ⟨w.thread.number, index, a⟩
  | _ => none

/-- The lines that a worker logs in its turn. -/
def Worker.said (w : Worker) : List (Nat × Line) :=
  match w.event? with
  | some e => (w.thread.act e.action).2.map fun l => (e.index, l)
  | none => []

/-- The lines that a worker has still to log of the document that it has in work. -/
def Worker.toCome (w : Worker) : List (Nat × Line) :=
  match w.phase with
  | .busy t => (w.thread.run t.actions).2.map fun l => (t.index, l)
  | _ => []

def Phase.actions : Phase → List Action
  | .busy t => t.actions
  | _ => []

namespace Job

/-- The events of the turns that the workers take, from a floor on. -/
def eventsFrom (j : Job) (f : Floor) : List Nat → List Event
  | [] => []
  | i :: schedule =>
    (f.workers[i]?.bind Worker.event?).toList ++ j.eventsFrom (j.advance f i) schedule

def events (j : Job) (schedule : List Nat) : List Event :=
  j.eventsFrom (Floor.opening (workerCount j.settings j.sources)) schedule

/-- The number is that of a worker's thread. -/
def HasThread (j : Job) (n : Nat) : Prop :=
  firstWorker ≤ n ∧ n < firstWorker + workerCount j.settings j.sources

/-- The lines about a document, when the thread of this number processes it. -/
def lines (j : Job) (n i : Nat) : List (Nat × Line) :=
  match j.sources[i]? with
  | some s => (Document.ofSource s j.config j.ledger j.settings).log.map fun m =>
      (i, ⟨n, some s.label, m⟩)
  | none => []

/-- A worker that goes on with the actions it has still to do comes to be as it was started, and has then
logged what there is to log about the documents that it holds. -/
structure IsOnCourse (j : Job) (n : Nat) (w : Worker) (logged : List (Nat × Line)) : Prop where
  thread : (w.thread.run w.phase.actions).1 = Thread.start n
  logged : logged ++ w.toCome = w.held.flatMap fun d => j.lines n d.1

variable {j : Job} {n next : Nat} {w : Worker} {logged : List (Nat × Line)}

lemma IsOnCourse.number (h : j.IsOnCourse n w logged) : w.thread.number = n := by
  rw [← Thread.number_run w.thread w.phase.actions, h.thread]
  rfl

lemma thread_of_mem_said {p : Nat × Line} (hp : p ∈ w.said) : p.2.thread = w.thread.number := by
  unfold Worker.said at hp
  split at hp
  · obtain ⟨l, hl, rfl⟩ := List.mem_map.1 hp
    exact Thread.thread_of_mem_act _ hl
  · cases hp

lemma toCome_task (s : Source) (hs : j.sources[next]? = some s) (completed : List (Nat × Document)) :
    (Worker.mk (Thread.start n) (.busy (j.task next s)) completed).toCome = j.lines n next := by
  change (((Thread.start n).run (Document.actions s _)).2).map _ = _
  rw [Thread.run_actions, lines, hs, List.map_map]
  rfl

lemma IsOnCourse.filter_said (h : j.IsOnCourse n w logged) (m : Nat) :
    w.said.filter (fun p => p.2.thread = m) = if m = n then w.said else [] := by
  have hsaid : ∀ p ∈ w.said, p.2.thread = n := fun p hp => (thread_of_mem_said hp).trans h.number
  split_ifs with hm
  · exact List.filter_eq_self.2 fun p hp => decide_eq_true ((hsaid p hp).trans hm.symm)
  · refine List.filter_eq_nil_iff.2 fun p hp => ?_
    rw [hsaid p hp, decide_eq_true_eq]
    exact Ne.symm hm

/-- A turn keeps a worker on its course. -/
lemma IsOnCourse.turn (h : j.IsOnCourse n w logged) (next : Nat) :
    j.IsOnCourse n (j.turn next w).2.1 (logged ++ w.said) := by
  obtain ⟨thread, phase, completed⟩ := w
  obtain ⟨hthread, hlogged⟩ := h
  cases phase with
  | stopped =>
    change j.IsOnCourse n ⟨thread, .stopped, completed⟩ (logged ++ [])
    rw [List.append_nil]
    exact ⟨hthread, hlogged⟩
  | free =>
    obtain rfl : thread = Thread.start n := hthread
    have hdone : logged ++ [] = completed.flatMap fun d => j.lines n d.1 := by
      simpa [Worker.toCome, Worker.held] using hlogged
    change j.IsOnCourse n (j.turn next ⟨_, .free, _⟩).2.1 (logged ++ [])
    cases hs : j.sources[next]? with
    | none =>
      simp only [Job.turn, hs]
      refine ⟨rfl, ?_⟩
      simpa [Worker.toCome, Worker.held] using hdone
    | some s =>
      simp only [Job.turn, hs]
      refine ⟨?_, ?_⟩
      · exact congrArg Prod.fst (Thread.run_actions n s _)
      · rw [toCome_task s hs, hdone]
        simp [Worker.held, task]
  | busy t =>
    obtain ⟨index, actions, document⟩ := t
    cases actions with
    | nil =>
      change j.IsOnCourse n ⟨thread, .free, _⟩ (logged ++ [])
      refine ⟨hthread, ?_⟩
      simpa [Worker.toCome, Worker.held, Thread.run] using hlogged
    | cons a as =>
      let w : Worker := ⟨thread, .busy ⟨index, a :: as, document⟩, completed⟩
      have hcome : w.toCome = w.said ++ (j.turn next w).2.1.toCome := by
        change (thread.run (a :: as)).2.map _ = (thread.act a).2.map _ ++
          ((thread.act a).1.run as).2.map _
        rw [Thread.run_cons, List.map_append]
      refine ⟨hthread, ?_⟩
      rw [List.append_assoc]
      exact (congrArg (logged ++ ·) hcome.symm).trans hlogged

/-- What a turn does to the worker's thread, and what it logs, is what its event does. -/
lemma turn_event (next : Nat) (w : Worker) : ((j.turn next w).2.1.thread, (j.turn next w).2.2) =
    match w.event? with
    | some e => w.thread.act e.action
    | none => (w.thread, []) := by
  obtain ⟨thread, phase, completed⟩ := w
  cases phase with
  | stopped => rfl
  | free =>
    cases hs : j.sources[next]? <;> simp only [turn, hs] <;> rfl
  | busy t =>
    obtain ⟨index, actions, document⟩ := t
    cases actions <;> rfl

lemma lines_turn (next : Nat) (w : Worker) : (j.turn next w).2.2 = w.said.map Prod.snd := by
  have hturn := turn_event (j := j) next w
  unfold Worker.said
  cases he : w.event? with
  | none =>
    rw [he] at hturn
    exact congrArg Prod.snd hturn
  | some e =>
    rw [he] at hturn
    rw [List.map_map]
    exact (congrArg Prod.snd hturn).trans (List.map_id _).symm

lemma thread_of_event {e : Event} (he : w.event? = some e) : e.thread = w.thread.number := by
  unfold Worker.event? at he
  split at he
  · cases he
    rfl
  · cases he

lemma IsOnCourse.run_event (h : j.IsOnCourse n w logged) {ts : Threads} (hts : ts n = w.thread)
    (next : Nat) : ts.run w.event?.toList =
      (Function.update ts n (j.turn next w).2.1.thread, w.said) := by
  have hturn := turn_event (j := j) next w
  unfold Worker.said
  cases he : w.event? with
  | none =>
    rw [he] at hturn
    have hthread : (j.turn next w).2.1.thread = ts n := (congrArg Prod.fst hturn).trans hts.symm
    rw [hthread, Function.update_eq_self]
    rfl
  | some e =>
    rw [he] at hturn
    have hthread : (j.turn next w).2.1.thread = (w.thread.act e.action).1 := congrArg Prod.fst hturn
    have hnumber : e.thread = n := (thread_of_event he).trans h.number
    rw [hthread, ← hts, ← hnumber]
    exact Threads.run_singleton ts e

/-- The threads, and the lines that were logged, beside the floor that the workers have come to. -/
structure Describes (j : Job) (before ts : Threads) (logged : List (Nat × Line)) (f : Floor) :
    Prop where
  workers : ∀ k w, f.workers[k]? = some w → ts (firstWorker + k) = w.thread ∧
    j.IsOnCourse (firstWorker + k) w (logged.filter fun p => p.2.thread = firstWorker + k)
  count : f.workers.length = workerCount j.settings j.sources
  log : logged.map Prod.snd = f.log
  logged : ∀ p ∈ logged, j.HasThread p.2.thread
  others : ∀ n, ¬j.HasThread n → ts n = before n

variable {before ts : Threads} {f : Floor}

lemma hasThread_iff : j.HasThread n ↔ ∃ k < workerCount j.settings j.sources, n = firstWorker + k := by
  unfold HasThread
  constructor
  · rintro ⟨hle, hlt⟩
    exact ⟨n - firstWorker, by omega, by omega⟩
  · rintro ⟨k, hk, rfl⟩
    exact ⟨by omega, by omega⟩

lemma describes_opening (hts : ∀ n, j.HasThread n → ts n = Thread.start n) :
    j.Describes ts ts [] (.opening (workerCount j.settings j.sources)) := by
  refine ⟨fun k w hw => ?_, ?_, rfl, nofun, fun _ _ => rfl⟩
  · rw [Floor.opening, List.getElem?_map, Option.map_eq_some_iff] at hw
    obtain ⟨k', hk', rfl⟩ := hw
    obtain ⟨hk, hget⟩ := List.getElem?_eq_some_iff.1 hk'
    rw [List.length_range] at hk
    rw [List.getElem_range] at hget
    subst hget
    exact ⟨hts _ (hasThread_iff.2 ⟨k, hk, rfl⟩), rfl, rfl⟩
  · rw [Floor.opening, List.length_map, List.length_range]

/-- A turn and its event keep the threads as they are on the floor. -/
lemma Describes.advance (h : j.Describes before ts logged f) (i : Nat) :
    let run := ts.run (f.workers[i]?.bind Worker.event?).toList
    j.Describes before run.1 (logged ++ run.2) (j.advance f i) := by
  intro run
  dsimp only [run]
  cases hw : f.workers[i]? with
  | none =>
    rw [advance_of_none hw]
    change j.Describes before ts (logged ++ []) f
    rwa [List.append_nil]
  | some w =>
    obtain ⟨hts, hcourse⟩ := h.workers i w hw
    have hi : i < f.workers.length := (List.getElem?_eq_some_iff.1 hw).1
    have hthread : j.HasThread (firstWorker + i) := hasThread_iff.2 ⟨i, h.count ▸ hi, rfl⟩
    rw [Option.bind_some, hcourse.run_event hts f.next, advance_of_some hw]
    dsimp only
    refine ⟨fun k v hv => ?_, ?_, ?_, fun p hp => ?_, fun n hn => ?_⟩
    · rw [List.filter_append, hcourse.filter_said]
      by_cases hk : k = i
      · subst hk
        rw [List.getElem?_set_self hi] at hv
        obtain rfl := Option.some.inj hv
        rw [Function.update_self, if_pos rfl]
        exact ⟨rfl, hcourse.turn f.next⟩
      · have hne : firstWorker + k ≠ firstWorker + i := by omega
        rw [List.getElem?_set_ne (Ne.symm hk)] at hv
        rw [Function.update_of_ne hne, if_neg hne, List.append_nil]
        exact h.workers k v hv
    · rw [List.length_set, h.count]
    · rw [List.map_append, h.log, ← lines_turn f.next w]
    · rcases List.mem_append.1 hp with hp | hp
      · exact h.logged p hp
      · rw [thread_of_mem_said hp, hcourse.number]
        exact hthread
    · have hne : n ≠ firstWorker + i := fun heq => hn (heq ▸ hthread)
      rw [Function.update_of_ne hne, h.others n hn]

lemma Describes.foldl_advance (h : j.Describes before ts logged f) (schedule : List Nat) :
    let run := ts.run (j.eventsFrom f schedule)
    j.Describes before run.1 (logged ++ run.2) (schedule.foldl j.advance f) := by
  induction schedule generalizing ts logged f with
  | nil =>
    change j.Describes before ts (logged ++ []) f
    rwa [List.append_nil]
  | cons i schedule ih =>
    intro run
    have hrun := ih (h.advance i)
    dsimp only [run]
    rw [eventsFrom, Threads.run_append, ← List.append_assoc]
    exact hrun

/-- The events of a schedule take all threads to where the workers are. -/
lemma describes_runSchedule (hts : ∀ n, j.HasThread n → ts n = Thread.start n)
    (schedule : List Nat) :
    let run := ts.run (j.events schedule)
    j.Describes ts run.1 run.2 (j.runSchedule schedule) :=
  (describes_opening hts).foldl_advance schedule

end Job

end Batch

end AffiliateLinks
