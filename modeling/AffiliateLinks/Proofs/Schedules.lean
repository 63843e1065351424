import AffiliateLinks.Proofs.BuiltConfig
import AffiliateLinks.Proofs.WorkerTurns

/-!
# Schedules of workers

In whatever order the workers take their turns, the batch comes to its end, and its report is that of
a single worker that takes the sources one after the other. The documents are put in order by the
indices that were claimed, and the counts of a report add up what became of its documents.
-/

namespace AffiliateLinks

namespace BatchReport

variable (r : BatchReport)

/-- The totals of a report add up the counts of its monetized documents. -/
theorem count_totals (m : Method) : r.totals.count m =
    ((r.documents.filter fun d => d.outcome.isMonetized).map fun d =>
      d.outcome.tally.count m).sum := by
  have hfold : ∀ (ds : List Document) (t : Tally),
      (ds.foldl (fun t d => t.add d.outcome.tally) t).count m = t.count m +
        ((ds.filter fun d => d.outcome.isMonetized).map fun d => d.outcome.tally.count m).sum := by
    intro ds
    induction ds with
    | nil => exact fun t => rfl
    | cons d ds ih =>
      intro t
      rw [List.foldl_cons, ih, Tally.count_add]
      cases hd : d.outcome with
      | monetized html tally fingerprint =>
        rw [List.filter_cons_of_pos (by rw [hd]; rfl), List.map_cons, List.sum_cons, hd]
        simp only [Outcome.tally]
        omega
      | alreadyProcessed =>
        rw [List.filter_cons_of_neg (by rw [hd]; decide)]
        cases m <;> rfl
      | failed cause =>
        rw [List.filter_cons_of_neg (by rw [hd]; simp [Outcome.isMonetized])]
        cases m <;> rfl
  have hzero : Tally.zero.count m = 0 := by cases m <;> rfl
  rw [totals, hfold, hzero, Nat.zero_add]

/-- Every document was monetized, or found to be processed already, or failed. -/
theorem length_documents :
    r.monetized + r.alreadyProcessed + r.failed = r.documents.length := by
  have hone : ∀ o : Outcome, (if o.isMonetized = true then 1 else 0) +
      (if o.isAlreadyProcessed = true then 1 else 0) + (if o.isFailed = true then 1 else 0) = 1 := by
    intro o
    cases o <;> rfl
  unfold monetized alreadyProcessed failed count
  induction r.documents with
  | nil => rfl
  | cons d ds ih =>
    have := hone d.outcome
    simp only [List.countP_cons, List.length_cons]
    omega

end BatchReport

namespace Batch

namespace Floor

variable {d : Nat × Document} {ds es : List (Nat × Document)}

/-- The documents stand in the order of their indices. -/
def InOrder (ds : List (Nat × Document)) : Prop := ds.Pairwise fun d e => d.1 ≤ e.1

lemma insertByIndex_perm (d : Nat × Document) (ds : List (Nat × Document)) :
    (insertByIndex d ds).Perm (d :: ds) := by
  induction ds with
  | nil => exact .refl _
  | cons e es ih =>
    rw [insertByIndex]
    split
    · exact .refl _
    · exact (ih.cons e).trans (.swap d e es)

lemma InOrder.insertByIndex (h : InOrder ds) (d : Nat × Document) :
    InOrder (insertByIndex d ds) := by
  induction ds with
  | nil => exact List.pairwise_singleton _ _
  | cons e es ih =>
    have ⟨he, hes⟩ := List.pairwise_cons.1 h
    rw [Floor.insertByIndex]
    split
    · next hlt =>
      refine List.pairwise_cons.2 ⟨fun x hx => ?_, h⟩
      rcases List.mem_cons.1 hx with rfl | hx
      · exact Nat.le_of_lt hlt
      · exact Nat.le_trans (Nat.le_of_lt hlt) (he x hx)
    · next hge =>
      refine List.pairwise_cons.2 ⟨fun x hx => ?_, ih hes⟩
      rcases List.mem_cons.1 ((insertByIndex_perm d es).mem_iff.1 hx) with rfl | hx
      · omega
      · exact he x hx

lemma foldl_insertByIndex (ds : List (Nat × Document)) (h : InOrder es) :
    (ds.foldl (fun es d => insertByIndex d es) es).Perm (ds ++ es) ∧
      InOrder (ds.foldl (fun es d => insertByIndex d es) es) := by
  induction ds generalizing es with
  | nil => exact ⟨.refl _, h⟩
  | cons d ds ih =>
    obtain ⟨hperm, horder⟩ := ih (h.insertByIndex d)
    refine ⟨?_, horder⟩
    exact hperm.trans (((insertByIndex_perm d es).append_left ds).trans List.perm_middle)

end Floor

namespace Job

variable (j : Job)

lemma map_fst_results : j.results.map Prod.fst = List.range j.sources.length := by
  refine List.ext_getElem? fun i => ?_
  rw [List.getElem?_map, getElem?_results, Option.map_map]
  cases hs : j.sources[i]? with
  | none =>
    rw [List.getElem?_eq_none (by simpa using List.getElem?_eq_none_iff.1 hs)]
    rfl
  | some s =>
    rw [List.getElem?_range (List.getElem?_eq_some_iff.1 hs).1]
    rfl

lemma pairwise_results : j.results.Pairwise fun d e => d.1 < e.1 := by
  have h := List.pairwise_lt_range (n := j.sources.length)
  rwa [← map_fst_results, List.pairwise_map] at h

/-- What a single worker reports, that takes the sources one after the other. -/
lemma documents_run : (run j.sources j.config j.ledger j.settings).value.documents =
    j.sources.map fun s => (Document.ofSource s j.config j.ledger j.settings).value := by
  change (j.sources.map _).map _ = _
  rw [List.map_map]
  rfl

lemma map_snd_results : j.results.map Prod.snd =
    (run j.sources j.config j.ledger j.settings).value.documents := by
  refine List.ext_getElem? fun i => ?_
  rw [documents_run, List.getElem?_map, getElem?_results, Option.map_map, List.getElem?_map]
  rfl

variable {j} {schedule : List Nat}

/-- At the end the workers have completed the result of every source, once. -/
theorem completed_perm (h : (j.runSchedule schedule).isDone) :
    ((j.runSchedule schedule).workers.flatMap Worker.completed).Perm j.results := by
  have haccounts := accounts_runSchedule j schedule
  obtain ⟨w, hw⟩ := List.exists_mem_of_ne_nil _ haccounts.staffed
  have hclaimed := haccounts.stopped w hw (h w hw)
  have hheld : (j.runSchedule schedule).workers.flatMap Worker.held =
      (j.runSchedule schedule).workers.flatMap Worker.completed := by
    rw [List.flatMap_def, List.flatMap_def]
    refine congrArg List.flatten (List.map_congr_left fun w hw => ?_)
    rw [Worker.held, h w hw]
    exact List.append_nil _
  have hperm := haccounts.held
  rwa [hheld, List.take_of_length_le (by rwa [length_results])] at hperm

theorem report_runSchedule (h : (j.runSchedule schedule).isDone) :
    (j.runSchedule schedule).report = (run j.sources j.config j.ledger j.settings).value := by
  obtain ⟨hperm, horder⟩ := Floor.foldl_insertByIndex
    ((j.runSchedule schedule).workers.flatMap Worker.completed)
    (List.Pairwise.nil : Floor.InOrder [])
  rw [List.append_nil] at hperm
  have hperm := hperm.trans (completed_perm h)
  have hsorted : Floor.InOrder j.results := (pairwise_results j).imp fun h => Nat.le_of_lt h
  have hkeys : ∀ d e, d ∈ j.results → e ∈ j.results → d.1 = e.1 → d = e := by
    intro d e hd he hkey
    obtain ⟨i, hi⟩ := List.getElem?_of_mem hd
    obtain ⟨k, hk⟩ := List.getElem?_of_mem he
    rw [getElem?_results] at hi hk
    obtain ⟨s, hs, rfl⟩ := Option.map_eq_some_iff.1 hi
    obtain ⟨s', hs', rfl⟩ := Option.map_eq_some_iff.1 hk
    obtain rfl : i = k := hkey
    rw [hs] at hs'
    rw [Option.some.inj hs']
  have heq := hperm.eq_of_pairwise
    (fun d e hd he hde hed => hkeys d e (hperm.mem_iff.1 hd) he (Nat.le_antisymm hde hed))
    horder hsorted
  have hdocuments : (j.runSchedule schedule).report.documents =
      (run j.sources j.config j.ledger j.settings).value.documents := by
    rw [Floor.report, heq, map_snd_results]
  exact congrArg BatchReport.mk hdocuments

/-- Workers that all get enough turns come to an end. Then, whatever the order of their turns was, the
report is that of a single worker, each source was processed once and by itself, and the counts of
the report are those of its documents. -/
theorem runSchedule_refines_run (j : Job) :
    (∃ turns, ∀ schedule : List Nat,
      (∀ i < workerCount j.settings j.sources, turns ≤ schedule.count i) →
        (j.runSchedule schedule).isDone) ∧
      ∀ schedule : List Nat, (j.runSchedule schedule).isDone →
        let floor := j.runSchedule schedule
        floor.report = (run j.sources j.config j.ledger j.settings).value ∧
        ((floor.workers.flatMap Worker.completed).map Prod.fst).Perm
          (List.range j.sources.length) ∧
        (∀ i : Nat, floor.report.documents[i]? = j.sources[i]?.map fun s =>
          (Document.ofSource s j.config j.ledger j.settings).value) ∧
        (∀ m : Method, floor.report.totals.count m =
          ((floor.report.documents.filter fun d => d.outcome.isMonetized).map fun d =>
            d.outcome.tally.count m).sum) ∧
        floor.report.monetized + floor.report.alreadyProcessed + floor.report.failed =
          j.sources.length := by
  refine ⟨exists_turns_isDone j, fun schedule h => ?_⟩
  have hreport := report_runSchedule h
  intro floor
  refine ⟨hreport, ?_, fun i => ?_, fun m => BatchReport.count_totals _ m, ?_⟩
  · rw [← map_fst_results]
    exact (completed_perm h).map Prod.fst
  · rw [hreport, documents_run, List.getElem?_map]
  · rw [BatchReport.length_documents, hreport, documents_run, List.length_map]

/-- Of two workers the one with the second source comes to its end first. -/
theorem report_two_workers :
    let page := Source.ofText "page".toList "<a href=\"https://amazon.com/dp/X\">x</a>".toList
    let file : Source := ⟨"file".toList, .error (.notUtf8 (Path.ofText "file".toList))⟩
    let j : Job := ⟨[page, file], .ofTag "site-20".toList, [], { workers := 2 }⟩
    let floor := j.runSchedule ([0, 1, 1, 1, 1, 1, 1] ++ List.replicate 6 0)
    floor.isDone ∧ floor.report.documents.map Document.source = ["page".toList, "file".toList] ∧
      floor.report.monetized + floor.report.alreadyProcessed + floor.report.failed = 2 := by
  intro page file j floor
  have hdone : floor.isDone := by decide +kernel
  obtain ⟨hreport, _, _, _, hcount⟩ := (runSchedule_refines_run j).2 _ hdone
  have hsources : (run j.sources j.config j.ledger j.settings).value.documents.map
      Document.source = ["page".toList, "file".toList] := by decide +kernel
  exact ⟨hdone, hreport ▸ hsources, hcount⟩

end Job

end Batch

end AffiliateLinks
