import AffiliateLinks.Proofs.Schedules
import AffiliateLinks.Proofs.ThreadEvents

/-!
# Labels of log lines

The label belongs to the thread, and what is logged does not know of it. A worker takes the label of a
document before anything is logged about the document and drops it at the end. In whatever order the
workers take their turns, every line is labelled with the document that its thread has in work, and no
thread but a worker's changes its label.
-/

namespace AffiliateLinks.Batch

section Alone

variable (s : Source) (sources : List Source) (config : Config) (ledger : Ledger)
  (settings : BatchSettings)

lemma log_run_singleton : (run [s] config ledger settings).log =
    (Document.ofSource s config ledger settings).log.map fun m => ⟨firstWorker, some s.label, m⟩ := by
  change ((Thread.start firstWorker).run (Document.actions s _ ++ [])).2 = _
  rw [List.append_nil, Thread.run_actions]

/-- A worker that does all logs of each source what it would log of the source alone. -/
theorem log_run : (run sources config ledger settings).log =
    sources.flatMap fun s => (run [s] config ledger settings).log := by
  induction sources with
  | nil => rfl
  | cons s sources ih =>
    rw [List.flatMap_cons, ← ih, log_run_singleton]
    change ((Thread.start firstWorker).run (Document.actions s _ ++ _)).2 = _
    rw [Thread.run_append, Thread.run_actions]
    rfl

end Alone

namespace Job

variable {j : Job} {n : Nat} {w : Worker} {before ts : Threads} {f : Floor}
  {logged : List (Nat × Line)} {p : Nat × Line}

lemma exists_of_mem_lines {i : Nat} (h : p ∈ j.lines n i) :
    p.1 = i ∧ ∃ s, j.sources[i]? = some s ∧ p.2.label = some s.label := by
  unfold lines at h
  split at h
  · next s hs =>
    obtain ⟨m, _, rfl⟩ := List.mem_map.1 h
    exact ⟨rfl, s, hs, rfl⟩
  · cases h

/-- Every line was logged by a worker. -/
lemma Describes.exists_worker (h : j.Describes before ts logged f) (hp : p ∈ logged) :
    ∃ (k : Nat) (w : Worker), f.workers[k]? = some w ∧ p.2.thread = firstWorker + k ∧
      p ∈ logged.filter fun p => p.2.thread = firstWorker + k := by
  obtain ⟨k, hk, hthread⟩ := hasThread_iff.1 (h.logged p hp)
  rw [← h.count] at hk
  exact ⟨k, _, List.getElem?_eq_getElem hk, hthread, List.mem_filter.2 ⟨hp, decide_eq_true hthread⟩⟩

/-- Every line carries the label of the document that its thread had in work. -/
lemma Describes.label (h : j.Describes before ts logged f) (hp : p ∈ logged) :
    ∃ s, j.sources[p.1]? = some s ∧ p.2.label = some s.label := by
  obtain ⟨k, w, hw, -, hmem⟩ := h.exists_worker hp
  have hheld := List.mem_append_left w.toCome hmem
  rw [(h.workers k w hw).2.logged, List.mem_flatMap] at hheld
  obtain ⟨d, -, hd⟩ := hheld
  obtain ⟨hindex, hs⟩ := exists_of_mem_lines hd
  rwa [hindex]

lemma IsOnCourse.label_eq_none (h : j.IsOnCourse n w logged) (hw : ∀ t, w.phase ≠ .busy t) :
    w.thread.label = none := by
  have hthread := h.thread
  cases hphase : w.phase with
  | busy t => exact absurd hphase (hw t)
  | _ =>
    rw [hphase] at hthread
    exact congrArg Thread.label hthread

/-- A worker that has stopped has logged all there is about the documents that it has completed. -/
lemma Describes.filter_thread (h : j.Describes before ts logged f) (hdone : f.isDone) {k : Nat}
    (hw : f.workers[k]? = some w) : logged.filter (fun p => p.2.thread = firstWorker + k) =
      w.completed.flatMap fun d => j.lines (firstWorker + k) d.1 := by
  have hlogged := (h.workers k w hw).2.logged
  have hphase := hdone w (List.mem_of_getElem? hw)
  rwa [Worker.toCome, Worker.held, hphase, List.append_nil, List.append_nil] at hlogged

section Index

variable {i : Nat} {is : List Nat} {s : Source}

lemma filter_lines_of_notMem (h : i ∉ is) :
    (is.flatMap (j.lines n)).filter (fun p => p.1 = i) = [] := by
  refine List.filter_eq_nil_iff.2 fun p hp => ?_
  obtain ⟨i', hi', hp⟩ := List.mem_flatMap.1 hp
  rw [(exists_of_mem_lines hp).1, decide_eq_true_eq]
  rintro rfl
  exact h hi'

/-- Among the lines about several documents those about one of them are found by its index. -/
lemma filter_lines_of_mem (hnodup : is.Nodup) (h : i ∈ is) :
    (is.flatMap (j.lines n)).filter (fun p => p.1 = i) = j.lines n i := by
  obtain ⟨front, back, rfl⟩ := List.append_of_mem h
  have hfront : i ∉ front := fun hi => (List.nodup_append.1 hnodup).2.2 i hi i List.mem_cons_self rfl
  have hback : i ∉ back := (List.nodup_cons.1 (List.nodup_append.1 hnodup).2.1).1
  have hself : (j.lines n i).filter (fun p => p.1 = i) = j.lines n i :=
    List.filter_eq_self.2 fun p hp => decide_eq_true (exists_of_mem_lines hp).1
  rw [List.flatMap_append, List.flatMap_cons, List.filter_append, List.filter_append,
    filter_lines_of_notMem hfront, filter_lines_of_notMem hback, hself, List.append_nil,
    List.nil_append]

variable {schedule : List Nat}

lemma nodup_completed (hdone : (j.runSchedule schedule).isDone) :
    ((j.runSchedule schedule).workers.flatMap fun w => w.completed.map Prod.fst).Nodup := by
  have hperm := (completed_perm hdone).map Prod.fst
  rw [map_fst_results, List.map_flatMap] at hperm
  exact hperm.nodup_iff.2 List.nodup_range

/-- Every document is completed by one worker. -/
lemma exists_worker_of_source (hdone : (j.runSchedule schedule).isDone) (hs : j.sources[i]? = some s) :
    ∃ (k : Nat) (w : Worker), (j.runSchedule schedule).workers[k]? = some w ∧
      i ∈ w.completed.map Prod.fst := by
  have hresult : (i, (j.task i s).document) ∈ j.results :=
    List.mem_of_getElem? (by rw [getElem?_results, hs]; rfl)
  rw [← (completed_perm hdone).mem_iff] at hresult
  obtain ⟨w, hw, hi⟩ := List.mem_flatMap.1 hresult
  obtain ⟨k, hk⟩ := List.getElem?_of_mem hw
  exact ⟨k, w, hk, List.mem_map_of_mem hi⟩

lemma eq_of_mem_completed (hdone : (j.runSchedule schedule).isDone) {k k' : Nat} {w w' : Worker}
    (hk : (j.runSchedule schedule).workers[k]? = some w)
    (hk' : (j.runSchedule schedule).workers[k']? = some w')
    (hi : i ∈ w.completed.map Prod.fst) (hi' : i ∈ w'.completed.map Prod.fst) : k = k' := by
  have hdisjoint := List.pairwise_iff_getElem.1 (List.nodup_flatMap.1 (nodup_completed hdone)).2
  obtain ⟨hlt, rfl⟩ := List.getElem?_eq_some_iff.1 hk
  obtain ⟨hlt', rfl⟩ := List.getElem?_eq_some_iff.1 hk'
  rcases Nat.lt_trichotomy k k' with h | h | h
  · exact absurd hi' (hdisjoint k k' hlt hlt' h hi)
  · exact h
  · exact absurd hi (hdisjoint k' k hlt' hlt h hi')

/-- One thread logs all that there is to log about a document. -/
lemma Describes.filter_index (h : j.Describes before ts logged (j.runSchedule schedule))
    (hdone : (j.runSchedule schedule).isDone) (hs : j.sources[i]? = some s) :
    ∃ n, j.HasThread n ∧ logged.filter (fun p => p.1 = i) = j.lines n i := by
  obtain ⟨k, w, hk, hi⟩ := exists_worker_of_source hdone hs
  have hlt : k < workerCount j.settings j.sources := h.count ▸ (List.getElem?_eq_some_iff.1 hk).1
  refine ⟨firstWorker + k, hasThread_iff.2 ⟨k, hlt, rfl⟩, ?_⟩
  have hthread : ∀ p ∈ logged, p.1 = i → p.2.thread = firstWorker + k := by
    intro p hp hindex
    obtain ⟨k', w', hk', hthread, hmem⟩ := h.exists_worker hp
    rw [h.filter_thread hdone hk', List.mem_flatMap] at hmem
    obtain ⟨d, hd, hline⟩ := hmem
    have hi' : d.1 ∈ w'.completed.map Prod.fst := List.mem_map_of_mem hd
    rw [← (exists_of_mem_lines hline).1, hindex] at hi'
    rw [hthread, eq_of_mem_completed hdone hk hk' hi hi']
  have hsame : logged.filter (fun p => p.1 = i) =
      (logged.filter fun p => p.2.thread = firstWorker + k).filter fun p => p.1 = i := by
    rw [List.filter_filter]
    refine List.filter_congr fun p hp => ?_
    by_cases hindex : p.1 = i
    · simp [hindex, hthread p hp hindex]
    · simp [hindex]
  have hnodup : (w.completed.map Prod.fst).Nodup :=
    (List.nodup_flatMap.1 (nodup_completed hdone)).1 w (List.mem_of_getElem? hk)
  rw [hsame, h.filter_thread hdone hk, ← filter_lines_of_mem hnodup hi, List.flatMap_map]

end Index

section Single

variable (hcount : workerCount j.settings j.sources = 1) (schedule : List Nat)

include hcount

/-- A single worker holds the results of the sources in their order. -/
lemma exists_single_worker : ∃ w, (j.runSchedule schedule).workers = [w] ∧
    w.held = j.results.take (j.runSchedule schedule).next := by
  unfold runSchedule
  rw [hcount]
  generalize hf : Floor.opening 1 = f
  have h : ∃ w, f.workers = [w] ∧ w.held = j.results.take f.next := by
    rw [← hf]
    exact ⟨_, rfl, rfl⟩
  clear hf
  induction schedule generalizing f with
  | nil => exact h
  | cons i schedule ih =>
    refine ih _ ?_
    obtain ⟨v, hv, hheld⟩ := h
    rcases advance_cases j f i with ⟨_, hsame⟩ | ⟨front, w, back, w', hbefore, _, hafter, hturn⟩
    · rw [hsame]
      exact ⟨v, hv, hheld⟩
    · rw [hv] at hbefore
      obtain ⟨rfl, rfl, rfl⟩ : front = [] ∧ w = v ∧ back = [] := by
        cases front <;> simp_all
      obtain ⟨claimed, htake, hclaims⟩ := hturn.held
      exact ⟨w', hafter, by rw [hclaims, hheld, htake]⟩

variable {schedule}

lemma exists_single_completed (hdone : (j.runSchedule schedule).isDone) :
    ∃ w, (j.runSchedule schedule).workers = [w] ∧ w.completed = j.results := by
  obtain ⟨w, hw, hheld⟩ := exists_single_worker hcount schedule
  have hmem : w ∈ (j.runSchedule schedule).workers := by
    rw [hw]
    exact List.mem_singleton_self w
  have hclaimed := (accounts_runSchedule j schedule).stopped w hmem (hdone w hmem)
  refine ⟨w, hw, ?_⟩
  rwa [Worker.held, hdone w hmem, List.append_nil,
    List.take_of_length_le (by rwa [length_results])] at hheld

end Single

lemma map_snd_lines {i : Nat} {s : Source} (hs : j.sources[i]? = some s) (n : Nat) :
    (j.lines n i).map Prod.snd =
      (run [s] j.config j.ledger j.settings).log.map fun l => { l with thread := n } := by
  rw [log_run_singleton, lines, hs, List.map_map, List.map_map]
  rfl

lemma map_snd_lines_results (j : Job) :
    (j.results.flatMap fun d => j.lines firstWorker d.1).map Prod.snd =
      (run j.sources j.config j.ledger j.settings).log := by
  rw [log_run, List.map_flatMap, List.flatMap_def, List.flatMap_def]
  congr 1
  refine List.ext_getElem? fun i => ?_
  rw [List.getElem?_map, getElem?_results, Option.map_map, List.getElem?_map]
  cases hs : j.sources[i]? with
  | none => rfl
  | some s =>
    refine congrArg some ?_
    change (j.lines firstWorker i).map Prod.snd = (run [s] j.config j.ledger j.settings).log
    rw [map_snd_lines hs, log_run_singleton, List.map_map]
    rfl

/-- The log of a single worker is that of a batch that one worker processes. -/
lemma Describes.log_single {schedule : List Nat}
    (h : j.Describes before ts logged (j.runSchedule schedule))
    (hcount : workerCount j.settings j.sources = 1) (hdone : (j.runSchedule schedule).isDone) :
    (j.runSchedule schedule).log = (run j.sources j.config j.ledger j.settings).log := by
  obtain ⟨w, hw, hcompleted⟩ := exists_single_completed hcount hdone
  have hworker : (j.runSchedule schedule).workers[0]? = some w := by
    rw [hw]
    rfl
  have hfilter := h.filter_thread hdone hworker
  rw [hcompleted, List.filter_eq_self.2 fun p hp => ?_] at hfilter
  · rw [← h.log, hfilter]
    exact map_snd_lines_results j
  · obtain ⟨k, hk, hthread⟩ := hasThread_iff.1 (h.logged p hp)
    rw [hcount, Nat.lt_one_iff] at hk
    rw [hthread, hk, decide_eq_true_eq]

/-- Workers that all get enough turns come to an end. Whatever the order of their turns is, what a worker
logs while a document is in work is labelled with that document, a worker that has no document in work is
unlabelled, and no other thread is touched, so that the one which waits for the workers keeps its label. At
the end one thread has logged of each document what is logged of it alone, and a single worker has done so
in the order of the sources. -/
theorem runSchedule_labels (j : Job) :
    (∃ turns, ∀ schedule : List Nat,
      (∀ i < workerCount j.settings j.sources, turns ≤ schedule.count i) →
        (j.runSchedule schedule).isDone) ∧
      ∀ (schedule : List Nat) (ts : Threads), (∀ n, j.HasThread n → ts n = Thread.start n) →
        let floor := j.runSchedule schedule
        let after := (ts.run (j.events schedule)).1
        let logged := (ts.run (j.events schedule)).2
        logged.map Prod.snd = floor.log ∧
        (∀ i l, (i, l) ∈ logged → ∃ s, j.sources[i]? = some s ∧ l.label = some s.label) ∧
        (∀ k w, floor.workers[k]? = some w → after (firstWorker + k) = w.thread ∧
          ((∀ t, w.phase ≠ .busy t) → w.thread.label = none)) ∧
        (∀ n, ¬j.HasThread n → after n = ts n) ∧
        (floor.isDone →
          (∀ i s, j.sources[i]? = some s → ∃ n, j.HasThread n ∧
            (logged.filter fun p => p.1 = i).map Prod.snd =
              (run [s] j.config j.ledger j.settings).log.map fun l => { l with thread := n }) ∧
          (workerCount j.settings j.sources = 1 →
            floor.log = j.sources.flatMap fun s => (run [s] j.config j.ledger j.settings).log)) := by
  refine ⟨exists_turns_isDone j, fun schedule ts hts => ?_⟩
  have h := describes_runSchedule hts schedule
  intro floor after logged
  refine ⟨h.log, fun i l hl => h.label hl, fun k w hw => ?_, h.others, fun hdone => ⟨?_, ?_⟩⟩
  · obtain ⟨hthread, hcourse⟩ := h.workers k w hw
    exact ⟨hthread, hcourse.label_eq_none⟩
  · intro i s hs
    obtain ⟨n, hn, hfilter⟩ := h.filter_index hdone hs
    exact ⟨n, hn, by rw [hfilter, map_snd_lines hs]⟩
  · intro hcount
    rw [h.log_single hcount hdone, log_run]

/-- A file that cannot be read, a page that the ledger remembers and a page with a link, by two workers in
turn: the thread that waits for them is still labelled as it was. -/
theorem runSchedule_labels_outcomes :
    let file : Source := ⟨"file".toList, .error (.notUtf8 (Path.ofText "file".toList))⟩
    let known := Source.ofText "known".toList "<p>".toList
    let page := Source.ofText "page".toList "<a href=\"https://amzn.to/x\">a</a>".toList
    let j : Job := ⟨[file, known, page], .ofTag "site-20".toList,
      [⟨"old".toList, fingerprint "<p>".toList, .zero⟩], { workers := 2 }⟩
    let schedule := (List.replicate 12 [0, 1]).flatten
    let caller : Thread := { Work.mainThread with label := some "caller".toList }
    let ts : Threads := fun n => if n = Work.mainThread.number then caller else Thread.start n
    (∀ n, j.HasThread n → ts n = Thread.start n) ∧ (j.runSchedule schedule).isDone ∧
      (ts.run (j.events schedule)).1 Work.mainThread.number = caller ∧
      (j.runSchedule schedule).log.map (fun l => (l.thread, l.label)) =
        [(2, some file.label), (3, some known.label), (2, some page.label), (2, some page.label)] ∧
      ∃ n, j.HasThread n ∧ ((ts.run (j.events schedule)).2.filter fun p => p.1 = 2).map Prod.snd =
        (run [page] j.config j.ledger j.settings).log.map fun l => { l with thread := n } := by
  intro file known page j schedule caller ts
  have hts : ∀ n, j.HasThread n → ts n = Thread.start n := fun n hn =>
    if_neg (Nat.ne_of_gt hn.1)
  have hmain : ¬j.HasThread Work.mainThread.number := fun h => absurd h.1 (by decide)
  have hrun : (j.runSchedule schedule).isDone ∧
      (j.runSchedule schedule).log.map (fun l => (l.thread, l.label)) =
        [(2, some file.label), (3, some known.label), (2, some page.label),
          (2, some page.label)] := by decide +kernel
  obtain ⟨-, -, -, hothers, hend⟩ := (runSchedule_labels j).2 schedule ts hts
  exact ⟨hts, hrun.1, (hothers _ hmain).trans (if_pos rfl), hrun.2, (hend hrun.1).1 2 page rfl⟩

end Job

end AffiliateLinks.Batch
