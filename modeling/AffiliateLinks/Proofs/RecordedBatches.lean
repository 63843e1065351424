import AffiliateLinks.Proofs.SavedRuns

/-!
# What a batch records

Inputs that are written under names of their own are labelled apart, so no record of a batch takes
the place of another one. What is recorded of a page is the fingerprint of the page as it is written,
with its disclosure, so a batch that comes later knows the page again.
-/

namespace AffiliateLinks

namespace Ledger

variable {l : Ledger} {e : LedgerEntry} {p : Text → Bool}

/-- An entry is found by its source if no other one has it. -/
lemma entryFor?_of_mem (h : (l.map LedgerEntry.source).Nodup) (he : e ∈ l) :
    l.entryFor? e.source = some e := by
  induction l with
  | nil => cases he
  | cons d l ih =>
    rw [List.map_cons, List.nodup_cons] at h
    rcases List.mem_cons.1 he with rfl | he
    · exact List.find?_cons_of_pos (decide_eq_true rfl)
    · have hd : d.source ≠ e.source := fun heq => h.1 (heq ▸ List.mem_map_of_mem he)
      rw [entryFor?, List.find?_cons_of_neg (by rw [decide_eq_true_eq]; exact hd)]
      exact ih h.2 he

/-- A source has the entry that was recorded last for it, and else the one that it had before. -/
theorem entryFor?_foldl_record (es : List LedgerEntry) (l : Ledger) (source : Text) :
    entryFor? (es.foldl (fun l e => record e l) l) source =
      (entryFor? es.reverse source).or (entryFor? l source) := by
  induction es generalizing l with
  | nil => rfl
  | cons e es ih =>
    have hreverse : entryFor? (e :: es).reverse source =
        (entryFor? es.reverse source).or (if e.source = source then some e else none) := by
      rw [List.reverse_cons, entryFor?, List.find?_append, List.find?_singleton]
      simp only [decide_eq_true_eq]
      rfl
    rw [List.foldl_cons, ih, entryFor?_record, hreverse, Option.or_assoc]
    split
    · rfl
    · rfl

/-- A record leaves the entries of all other sources as they are, and in their order. -/
lemma filter_record (h : p e.source = false) (l : Ledger) :
    (record e l).filter (fun d => p d.source) = l.filter fun d => p d.source := by
  have hdropped {d : LedgerEntry} (hd : d.source = e.source) (ds : Ledger) :
      (d :: ds).filter (fun d => p d.source) = ds.filter fun d => p d.source := by
    refine List.filter_cons_of_neg ?_
    rw [hd, h]
    exact Bool.false_ne_true
  rcases record_cases e l with ⟨_, hrecord⟩ | ⟨front, d, back, rfl, hd, _, hrecord⟩
  · rw [hrecord, List.filter_append, hdropped rfl]
    exact List.append_nil _
  · rw [hrecord, List.filter_append, List.filter_append, hdropped rfl, hdropped hd]

lemma filter_foldl_record {es : List LedgerEntry} (h : ∀ e ∈ es, p e.source = false) (l : Ledger) :
    (es.foldl (fun l e => record e l) l).filter (fun d => p d.source) =
      l.filter fun d => p d.source := by
  induction es generalizing l with
  | nil => rfl
  | cons e es ih =>
    rw [List.foldl_cons, ih fun d hd => h d (List.mem_cons_of_mem e hd),
      filter_record (h e List.mem_cons_self)]

end Ledger

namespace BatchReport

variable {r : BatchReport} {d : Document} {html fp : Text} {tally : Tally}

/-- The sources of the pages that were monetized. -/
def recordedSources (r : BatchReport) : List Text :=
  (r.documents.filter fun d => d.outcome.isMonetized).map Document.source

lemma map_source_entries (ds : List Document) :
    (ds.filterMap Document.entry?).map LedgerEntry.source =
      (ds.filter fun d => d.outcome.isMonetized).map Document.source := by
  induction ds with
  | nil => rfl
  | cons d ds ih =>
    cases hd : d.outcome with
    | monetized html tally fp =>
      have hentry : d.entry? = some ⟨d.source, fp, tally⟩ := by rw [Document.entry?, hd]
      rw [List.filterMap_cons_some hentry, List.filter_cons_of_pos (by rw [hd]; rfl), List.map_cons,
        List.map_cons, ih]
    | alreadyProcessed =>
      have hentry : d.entry? = none := by rw [Document.entry?, hd]
      rw [List.filterMap_cons_none hentry, List.filter_cons_of_neg (by rw [hd]; decide), ih]
    | failed cause =>
      have hentry : d.entry? = none := by rw [Document.entry?, hd]
      rw [List.filterMap_cons_none hentry,
        List.filter_cons_of_neg (by rw [hd]; exact Bool.false_ne_true), ih]

/-- If no two documents share a source, each page has its entry. -/
lemma entryFor?_recordInto (hsources : (r.documents.map Document.source).Nodup) (hd : d ∈ r.documents)
    (hpage : d.outcome = .monetized html tally fp) (ledger : Ledger) :
    (r.recordInto ledger).entryFor? d.source = some ⟨d.source, fp, tally⟩ := by
  let entries := r.documents.filterMap Document.entry?
  have hentry : (⟨d.source, fp, tally⟩ : LedgerEntry) ∈ entries.reverse := by
    rw [List.mem_reverse]
    exact List.mem_filterMap.2 ⟨d, hd, by rw [Document.entry?, hpage]⟩
  have hdistinct : (entries.reverse.map LedgerEntry.source).Nodup := by
    rw [List.map_reverse, List.nodup_reverse, map_source_entries]
    exact hsources.sublist (List.filter_sublist.map _)
  have hfound : Ledger.entryFor? entries.reverse d.source = _ :=
    Ledger.entryFor?_of_mem hdistinct hentry
  change Ledger.entryFor? (entries.foldl _ ledger) _ = _
  rw [Ledger.entryFor?_foldl_record, hfound, Option.some_or]

/-- The entries of the sources that were not recorded stay, and stay in their order. -/
lemma filter_recordInto (r : BatchReport) (ledger : Ledger) :
    (r.recordInto ledger).filter (fun e => e.source ∉ r.recordedSources) =
      ledger.filter fun e => e.source ∉ r.recordedSources := by
  refine Ledger.filter_foldl_record (p := fun s => s ∉ r.recordedSources) (fun e he => ?_) ledger
  rw [decide_eq_false_iff_not, not_not, recordedSources, ← map_source_entries]
  exact List.mem_map_of_mem he

lemma totals_eq_zero (h : ∀ d ∈ r.documents, d.outcome.tally = .zero) : r.totals = .zero := by
  have hfold (ds : List Document) (hds : ∀ d ∈ ds, d.outcome.tally = .zero) :
      ds.foldl (fun t d => t.add d.outcome.tally) Tally.zero = .zero := by
    induction ds with
    | nil => rfl
    | cons d ds ih =>
      rw [List.foldl_cons, hds d List.mem_cons_self]
      exact ih fun c hc => hds c (List.mem_cons_of_mem d hc)
  exact hfold r.documents h

end BatchReport

namespace Batch.Job

variable {j : Job} {schedule : List Nat} {inputs : List Path} {names : List Text} {fs : FileSystem}

/-- A batch without force leaves alone all pages that its ledger contains. -/
lemma report_of_containsOutput (hforce : j.settings.force = false)
    (hpages : ∀ s ∈ j.sources, ∃ html, s.page = .ok html ∧
      j.ledger.containsOutput (fingerprint html) = true)
    (hdone : (j.runSchedule schedule).isDone) :
    let report := (j.runSchedule schedule).report
    report.documents = j.sources.map (fun s => ⟨s.label, .alreadyProcessed⟩) ∧
      report.totals = .zero := by
  intro report
  have hdocuments : report.documents = j.sources.map fun s => ⟨s.label, .alreadyProcessed⟩ := by
    change (j.runSchedule schedule).report.documents = _
    rw [report_runSchedule hdone, documents_run]
    refine List.map_congr_left fun s hs => ?_
    obtain ⟨html, hpage, hcontains⟩ := hpages s hs
    rw [Document.value_ofSource hpage hforce, if_pos hcontains]
  refine ⟨hdocuments, BatchReport.totals_eq_zero fun d hd => ?_⟩
  rw [hdocuments] at hd
  obtain ⟨s, _, rfl⟩ := List.mem_map.1 hd
  rfl

/-- After a batch of files that are written under names of their own, the ledger has for every page
its counts and the fingerprint of the page that was reported, and the entries of all other sources
as before. A batch over such pages that follows without force finds them all processed. -/
theorem recordInto_runSchedule (hnames : outputNames inputs = .ok names)
    (hsources : j.sources = inputs.map (Source.ofFile fs)) (hdone : (j.runSchedule schedule).isDone) :
    let report := (j.runSchedule schedule).report
    let ledger := report.recordInto j.ledger
    (∀ (i : Nat) (source html fp : Text) (tally : Tally),
      report.documents[i]? = some ⟨source, .monetized html tally fp⟩ →
        ∃ p page, inputs[i]? = some p ∧ source = p.display ∧ (Source.ofFile fs p).page = .ok page ∧
          .monetized html tally fp = Outcome.ofPage
            (MonetizedPage.ofHtml page j.config j.settings.brand).value j.settings.disclosure ∧
          ledger.entryFor? source = some ⟨source, fingerprint html, tally⟩) ∧
      ledger.filter (fun e => e.source ∉ report.recordedSources) =
        j.ledger.filter (fun e => e.source ∉ report.recordedSources) ∧
      ∀ (next : Job) (turns : List Nat), next.ledger = ledger → next.settings.force = false →
        (∀ s ∈ next.sources, ∃ source html tally fp,
          ⟨source, .monetized html tally fp⟩ ∈ report.documents ∧ s.page = .ok html) →
        (next.runSchedule turns).isDone →
          (next.runSchedule turns).report.documents =
            next.sources.map (fun s => ⟨s.label, .alreadyProcessed⟩) ∧
          (next.runSchedule turns).report.totals = .zero := by
  intro report ledger
  have hdocuments : report.documents = inputs.map fun p =>
      (Document.ofSource (.ofFile fs p) j.config j.ledger j.settings).value := by
    change (j.runSchedule schedule).report.documents = _
    rw [report_runSchedule hdone, documents_run, hsources, List.map_map]
    rfl
  have hdistinct : (report.documents.map Document.source).Nodup := by
    have hlabels : report.documents.map Document.source = inputs.map Path.display := by
      rw [hdocuments, List.map_map]
      exact List.map_congr_left fun p _ => Document.source_ofSource
    rw [hlabels]
    exact nodup_display_of_outputNames hnames
  refine ⟨fun i source html fp tally hi => ?_, report.filter_recordInto j.ledger,
    fun next turns hledger hforce hpages hturns => ?_⟩
  · have hentry := BatchReport.entryFor?_recordInto hdistinct (List.mem_of_getElem? hi) rfl j.ledger
    rw [hdocuments, List.getElem?_map, Option.map_eq_some_iff] at hi
    obtain ⟨p, hp, hdocument⟩ := hi
    have houtcome := congrArg Document.outcome hdocument
    obtain ⟨page, hpage, hmade⟩ := Document.exists_page_of_ofSource houtcome
    have hlabel : source = p.display := (congrArg Document.source hdocument).symm.trans
      Document.source_ofSource
    rw [Document.fingerprint_of_ofSource houtcome] at hentry
    exact ⟨p, page, hp, hlabel, hpage, hmade, hentry⟩
  · refine report_of_containsOutput hforce (fun s hs => ?_) hturns
    obtain ⟨source, html, tally, fp, hmem, hpage⟩ := hpages s hs
    refine ⟨html, hpage, ?_⟩
    have hcontains : (report.recordInto j.ledger).containsOutput fp = true :=
      BatchReport.containsOutput_recordInto hdistinct hmem rfl
    rw [hdocuments] at hmem
    obtain ⟨p, _, hdocument⟩ := List.mem_map.1 hmem
    rw [Document.fingerprint_of_ofSource (congrArg Document.outcome hdocument)] at hcontains
    rw [hledger]
    exact hcontains

/-- A path that is no UTF-8 has its page recorded with the disclosure, beside another entry. -/
theorem recordInto_runSchedule_disclosed :
    let path : Path := [0x61, 0xFF]
    let page := "<a href=\"https://amzn.to/x\">a</a>".toList
    let made := Disclosure.short.html ++
      "<a href=\"https://amzn.to/x?tag=site-20\" rel=\"nofollow sponsored\">a</a>".toList
    let other : LedgerEntry := ⟨"b".toList, fingerprint page.tail, .zero⟩
    let fs : FileSystem := ⟨[([], .directory true), ([path], .file (Utf8.encode page))], []⟩
    let j : Job := ⟨[.ofFile fs path], .ofTag "site-20".toList, [other],
      { disclosure := some .short }⟩
    let turns := List.replicate 9 0
    let report := (j.runSchedule turns).report
    let next : Job := ⟨[.ofText "c".toList made], j.config, report.recordInto j.ledger, {}⟩
    (j.runSchedule turns).isDone ∧
      next.ledger.entryFor? path.display = some ⟨path.display, fingerprint made, ⟨1, 0, 0, 0⟩⟩ ∧
      next.ledger.filter (fun e => e.source ∉ report.recordedSources) = [other] ∧
      (next.runSchedule turns).isDone ∧
      (next.runSchedule turns).report.documents = [⟨"c".toList, .alreadyProcessed⟩] := by
  intro path page made other fs j turns report next
  let document : Document := ⟨path.display, .monetized made ⟨1, 0, 0, 0⟩ (fingerprint made)⟩
  have hnames : outputNames [path] = .ok [path.display] := by decide +kernel
  have hruns : (j.runSchedule turns).isDone ∧ report.documents = [document] ∧
      [other].filter (fun e => e.source ∉ report.recordedSources) = [other] ∧
      (next.runSchedule turns).isDone := by decide +kernel
  obtain ⟨hdone, hdocuments, hother, hturns⟩ := hruns
  obtain ⟨hentries, hothers, hnext⟩ := recordInto_runSchedule hnames rfl hdone
  have hfirst : report.documents[0]? = some document := by rw [hdocuments]; rfl
  obtain ⟨_, _, _, _, _, _, hentry⟩ := hentries 0 _ _ _ _ hfirst
  -- unfolding any further than this would run the batch
  have hledger : next.ledger = report.recordInto j.ledger := by dsimp only [next]
  rw [hledger]
  refine ⟨hdone, hentry, hothers.trans hother, hturns, ?_⟩
  refine (hnext next turns hledger rfl (fun s hs => ?_) hturns).1
  rw [List.mem_singleton.1 hs]
  have hmem : document ∈ report.documents := by
    rw [hdocuments]
    exact List.mem_singleton.2 rfl
  exact ⟨_, made, _, _, hmem, rfl⟩

end Batch.Job

end AffiliateLinks
