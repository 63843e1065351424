import AffiliateLinks.Command.Run
import AffiliateLinks.Proofs.LedgerFile
import AffiliateLinks.Proofs.LedgerHistory
import AffiliateLinks.Proofs.QuotedLinks
import AffiliateLinks.Proofs.Splice
import AffiliateLinks.Proofs.WrittenDocuments

/-!
# What a run leaves in its ledger

The ledger is saved after the last document was put in place, and not at all if one of them cannot be
written. So a run that comes to its end has recorded every document that it put in place, and a run
that breaks off has recorded none of them.
-/

namespace AffiliateLinks

lemma Tally.fits_of_total {t : Tally} (h : t.total < Nat.pow 2 64) : t.Fits := by
  unfold total at h
  exact ⟨by omega, by omega, by omega, by omega⟩

/-- A page has no more links than characters. -/
lemma MonetizedPage.total_tally_le (html : Text) (config : Config) (brand : Option Text) :
    (ofHtml html config brand).value.tally.total ≤ html.length := by
  have hanchors : (Page.anchors html).length ≤ (Page.pieces html).length :=
    List.length_filterMap_le _ _
  rw [tally, Tally.total_ofMethods, List.length_map, links_ofHtml, List.length_map]
  exact Nat.le_trans hanchors (Page.length_pieces_le html)

namespace FileSystem

/-- No file is longer than sixty-four bits can count. -/
def FilesFit (fs : FileSystem) : Prop :=
  ∀ place content, fs.get? place = some (.file content) → content.length < Nat.pow 2 64

lemma FilesFit.of_makesDirectories {fs fs' : FileSystem} (h : fs.FilesFit)
    (hmade : fs.MakesDirectories fs') : fs'.FilesFit :=
  fun place content hfile => h place content (hmade.get?_file_iff.1 hfile)

end FileSystem

lemma Source.length_page {fs : FileSystem} {p : Path} {html : Text} (hfit : fs.FilesFit)
    (h : (ofFile fs p).page = .ok html) : html.length < Nat.pow 2 64 := by
  unfold ofFile at h
  dsimp only at h
  split at h
  · cases h
  · next content hread =>
    split at h
    · next t hdecode =>
      cases h
      obtain ⟨⟨place, e⟩, hlookup, hfile⟩ := bind_eq_ok_iff.1 hread
      cases e with
      | directory w => cases hfile
      | file bytes =>
        cases hfile
        have hget := (FileSystem.lookup_eq_ok_iff.1 hlookup).2.1
        exact Nat.lt_of_le_of_lt (Utf8.length_le_of_decode? hdecode) (hfit place content hget)
    · cases h

namespace BatchReport

variable {report : BatchReport} {ledger : Ledger} {d : Document} {html fp : Text} {tally : Tally}

lemma mem_recordInto {e : LedgerEntry} (h : e ∈ report.recordInto ledger) :
    e ∈ ledger ∨ ∃ d ∈ report.documents, d.entry? = some e := by
  rcases (Ledger.mem_foldl_record _ _ _).1 h with ⟨earlier, later, hes, _⟩ | ⟨front, back, hl, _⟩
  · refine .inr (List.mem_filterMap.1 ?_)
    rw [hes]
    exact List.mem_append_right _ List.mem_cons_self
  · refine .inl ?_
    rw [hl]
    exact List.mem_append_right _ List.mem_cons_self

/-- Every page of a report is remembered if no two documents share a source. -/
lemma containsOutput_recordInto (hsources : (report.documents.map Document.source).Nodup)
    (hd : d ∈ report.documents) (hpage : d.outcome = .monetized html tally fp) :
    (report.recordInto ledger).containsOutput fp = true := by
  obtain ⟨earlier, later, hdocuments⟩ := List.mem_iff_append.1 hd
  have hlater : ∀ c ∈ later, c.source = d.source → c.outcome.isMonetized = false := by
    intro c hc hsource
    rw [hdocuments, List.map_append, List.map_cons, List.nodup_append, List.nodup_cons] at hsources
    exact absurd (hsource ▸ List.mem_map_of_mem hc) hsources.2.1.1
  have hflat : [report].flatMap documents = earlier ++ d :: later := by
    rw [List.flatMap_singleton, hdocuments]
  have hlatest := isLatest_entries hflat hpage hlater
  rw [entries, List.flatMap_singleton] at hlatest
  refine List.any_eq_true.2 ⟨_, (Ledger.mem_foldl_record _ _ _).2 (.inl hlatest), ?_⟩
  exact decide_eq_true rfl

end BatchReport

namespace Command.Options

variable {o : Options} {config : Config} {fs fs' : FileSystem} {names : List Text}

/-- The report of the batch that a run makes of the files that it finds. -/
def report (o : Options) (config : Config) (fs : FileSystem) : BatchReport :=
  (Batch.run (o.inputs.map (Source.ofFile fs)) config (Ledger.load o.outDir fs).value
    o.batchSettings).value

/-- The documents that a run puts in place. -/
def placed (o : Options) (config : Config) (fs : FileSystem) : List Document :=
  match outputNames o.inputs, OutputDirectory.prepare o.outDir fs with
  | .ok names, (.ok dir, fs) => dir.placed ((o.report config fs).documents.zip names) fs
  | _, _ => []

/-- Each input has a document. -/
lemma documents_report (o : Options) (config : Config) (fs : FileSystem) :
    (o.report config fs).documents = o.inputs.map fun p =>
      (Document.ofSource (.ofFile fs p) config (Ledger.load o.outDir fs).value o.batchSettings).value := by
  simp only [report, Batch.run, List.map_map]
  rfl

lemma map_source_documents (o : Options) (config : Config) (fs : FileSystem) :
    (o.report config fs).documents.map Document.source = o.inputs.map Path.display := by
  rw [documents_report, List.map_map]
  exact List.map_congr_left fun p _ => Document.source_ofSource

/-- Whatever a run remembers has counters that fit. -/
lemma fits_recordInto (hfit : fs.FilesFit) :
    ∀ e ∈ (o.report config fs).recordInto (Ledger.load o.outDir fs).value, e.tally.Fits := by
  intro e he
  rcases BatchReport.mem_recordInto he with hprior | ⟨d, hd, hentry⟩
  · exact Ledger.fits_load o.outDir fs e hprior
  · rw [documents_report] at hd
    obtain ⟨p, _, rfl⟩ := List.mem_map.1 hd
    unfold Document.entry? at hentry
    split at hentry
    · next html tally fp houtcome =>
      cases hentry
      obtain ⟨page, hpage, houtcome⟩ := Document.exists_page_of_ofSource houtcome
      obtain ⟨_, rfl, _⟩ := Outcome.monetized.inj houtcome
      exact Tally.fits_of_total (Nat.lt_of_le_of_lt (MonetizedPage.total_tally_le page config _)
        (Source.length_page hfit hpage))
    · cases hentry

lemma length_names (config : Config) (fs : FileSystem) (hnames : outputNames o.inputs = .ok names) :
    names.length = (o.report config fs).documents.length := by
  have hinputs := congrArg List.length (outputNamesAfter_eq_ok hnames).1
  rw [List.length_map, List.length_map] at hinputs
  rw [documents_report, List.length_map, hinputs]

/-- A document and its name come from one input. -/
lemma exists_input_of_mem_zip {d : Document} {name : Text} (hnames : outputNames o.inputs = .ok names)
    (h : (d, name) ∈ (o.report config fs).documents.zip names) : ∃ p ∈ o.inputs,
      p.outputName = .ok name ∧ d = (Document.ofSource (.ofFile fs p) config
        (Ledger.load o.outDir fs).value o.batchSettings).value := by
  have hmem : (d, (.ok name : Except WriteError Text)) ∈
      (o.report config fs).documents.zip (names.map .ok) := by
    rw [List.zip_map_right]
    exact List.mem_map_of_mem h
  rw [documents_report, ← (outputNamesAfter_eq_ok hnames).1, List.zip_map', List.mem_map] at hmem
  obtain ⟨p, hp, hpair⟩ := hmem
  obtain ⟨hdocument, hname⟩ := Prod.mk.inj hpair
  exact ⟨p, hp, hname, hdocument.symm⟩

/-- The prepared directory is still there when the ledger is saved. -/
lemma result_save_of_prepare {dir : OutputDirectory}
    (hdir : OutputDirectory.prepare o.outDir fs = (.ok dir, fs')) (pairs : List (Document × Text))
    (l : Ledger) : (l.save o.outDir).result ((dir.writeDocuments pairs).result fs').2 =
      dir.write Ledger.fileName l.render ((dir.writeDocuments pairs).result fs').2 := by
  obtain ⟨rfl, place, hlookup⟩ := OutputDirectory.prepare_eq_ok hdir
  obtain ⟨hsame, _⟩ := (OutputDirectory.mk o.outDir).writeDocuments_frame pairs fs'
  exact Ledger.result_save (hsame.lookup_directory_iff.2 hlookup) l

/-- After the directory was prepared, a run writes the documents, saves the ledger if there are any,
and finishes without a change. -/
lemma exists_finish (config : Config) {dir : OutputDirectory} (hnames : outputNames o.inputs = .ok names)
    (hdir : OutputDirectory.prepare o.outDir fs = (.ok dir, fs')) :
    let report := o.report config fs'
    ∃ finish : Work Failure Answer, (∀ fs, ∃ answer, finish.result fs = (.ok answer, fs)) ∧
      (o.runFiles config).result fs = (do
        let _ ← Work.mapError (Failure.because "failed to write monetized documents")
          (dir.writeDocuments (report.documents.zip names))
        if 0 < report.monetized then
          let _ ← Work.mapError Failure.ofLedgerWrite
            ((report.recordInto (Ledger.load o.outDir fs').value).save o.outDir)
          finish
        else finish).result fs' := by
  intro report
  have hreport : dir.writeReport report names = dir.writeDocuments (report.documents.zip names) :=
    if_neg (not_not_intro (length_names config fs' hnames))
  have hnamed : (Work.inspect fun _ => (outputNames o.inputs).mapError Failure.ofWrite).result fs =
      (.ok names, fs) := by
    rw [Work.result_inspect, hnames]
    rfl
  have hprepared : (Work.perform (OutputDirectory.prepare o.outDir)).result fs = (.ok dir, fs') := hdir
  have hloaded : (Work.inspect fun fs => .ok (Ledger.load o.outDir fs) : Work Failure _).result fs' =
      (.ok (Ledger.load o.outDir fs'), fs') := rfl
  have hlogged : (Work.log ((Ledger.load o.outDir fs').log.map Work.mainThread.line) :
      Work Failure Unit).result fs' = (.ok (), fs') := rfl
  have hsources : (Work.inspect fun fs => .ok (o.inputs.map (Source.ofFile fs)) :
      Work Failure _).result fs' = (.ok (o.inputs.map (Source.ofFile fs')), fs') := rfl
  have hbatch : (runBatch (o.inputs.map (Source.ofFile fs')) config (Ledger.load o.outDir fs').value
      o.batchSettings).result fs' = (.ok report, fs') := rfl
  unfold runFiles
  rw [Work.result_bind_of_ok hnamed, Work.result_mapError_bind_of_ok hprepared,
    Work.result_bind_of_ok hloaded, Work.result_bind_of_ok hlogged,
    Work.result_bind_of_ok hsources, Work.result_bind_of_ok hbatch, hreport]
  refine ⟨_, fun fs => ?_, rfl⟩
  dsimp only
  split
  · exact ⟨_, rfl⟩
  · exact ⟨_, rfl⟩

/-- A run breaks off where a document or the ledger cannot be written. -/
lemma result_runFiles (config : Config) {dir : OutputDirectory}
    (hnames : outputNames o.inputs = .ok names)
    (hdir : OutputDirectory.prepare o.outDir fs = (.ok dir, fs')) :
    let report := o.report config fs'
    let ledger := report.recordInto (Ledger.load o.outDir fs').value
    let written := (dir.writeDocuments (report.documents.zip names)).result fs'
    let run := (o.runFiles config).result fs
    (written.1.isOk = false ∧ run.1.isOk = false ∧ run.2 = written.2) ∨
      written.1.isOk = true ∧ (report.monetized = 0 ∧ run.1.isOk = true ∧ run.2 = written.2 ∨
        0 < report.monetized ∧ ∃ saved,
          dir.write Ledger.fileName ledger.render written.2 = (saved, run.2) ∧
            run.1.isOk = saved.isOk) := by
  intro report ledger written run
  obtain ⟨finish, hfinish, hrun⟩ := exists_finish config hnames hdir
  change run = _ at hrun
  cases hwritten : written with
  | mk paths fs'' =>
    cases paths with
    | error e =>
      rw [hrun, Work.result_mapError_bind_of_error hwritten]
      exact .inl ⟨rfl, rfl, rfl⟩
    | ok paths =>
      rw [Work.result_mapError_bind_of_ok hwritten] at hrun
      refine .inr ⟨rfl, ?_⟩
      rcases Nat.eq_zero_or_pos report.monetized with hnone | hsome
      · obtain ⟨answer, hanswer⟩ := hfinish fs''
        rw [if_neg (Nat.not_lt.2 (Nat.le_of_eq hnone)), hanswer] at hrun
        rw [hrun]
        exact .inl ⟨hnone, rfl, rfl⟩
      · have hsaved : (ledger.save o.outDir).result written.2 =
            dir.write Ledger.fileName ledger.render written.2 := result_save_of_prepare hdir _ ledger
        rw [hwritten] at hsaved
        rw [if_pos hsome] at hrun
        cases hsave : dir.write Ledger.fileName ledger.render fs'' with
        | mk saved fsEnd =>
          have hsaved := hsaved.trans hsave
          refine .inr ⟨hsome, saved, ?_⟩
          cases saved with
          | error e =>
            rw [hrun, Work.result_mapError_bind_of_error hsaved]
            exact ⟨rfl, rfl⟩
          | ok path =>
            obtain ⟨answer, hanswer⟩ := hfinish fsEnd
            rw [hrun, Work.result_mapError_bind_of_ok hsaved, hanswer]
            exact ⟨rfl, rfl⟩

section Recorded

variable {dir : OutputDirectory}

/-- If a run with monetized documents comes to its end, its ledger has them all. -/
lemma ledger_of_isOk (hfit : fs'.FilesFit) (hnames : outputNames o.inputs = .ok names)
    (hdir : OutputDirectory.prepare o.outDir fs = (.ok dir, fs'))
    (hsome : 0 < (o.report config fs').monetized)
    (hok : ((o.runFiles config).result fs).1.isOk = true) :
    (Ledger.load o.outDir ((o.runFiles config).result fs).2).value =
      (o.report config fs').recordInto (Ledger.load o.outDir fs').value := by
  obtain ⟨rfl, _⟩ := OutputDirectory.prepare_eq_ok hdir
  rcases result_runFiles config hnames hdir with
    ⟨_, herror, _⟩ | ⟨_, ⟨hnone, _⟩ | ⟨_, saved, hsave, hsaved⟩⟩
  · rw [hok] at herror
    cases herror
  · omega
  · cases saved with
    | error e =>
      rw [hok] at hsaved
      cases hsaved
    | ok target => exact Ledger.load_of_write hsave (fits_recordInto hfit)

/-- If a run breaks off, the ledger is as before, unless an input has the name of its file. -/
lemma ledger_of_not_isOk (hnames : outputNames o.inputs = .ok names)
    (hdir : OutputDirectory.prepare o.outDir fs = (.ok dir, fs'))
    (hinputs : ∀ p ∈ o.inputs, p.outputName ≠ .ok Ledger.fileName)
    (herror : ((o.runFiles config).result fs).1.isOk = false) :
    (Ledger.load o.outDir ((o.runFiles config).result fs).2).value =
      (Ledger.load o.outDir fs').value := by
  obtain ⟨rfl, _⟩ := OutputDirectory.prepare_eq_ok hdir
  have hpairs : ∀ pair ∈ (o.report config fs').documents.zip names, pair.2 ≠ Ledger.fileName := by
    intro pair hpair heq
    obtain ⟨p, hp, houtput, _⟩ := exists_input_of_mem_zip hnames hpair
    exact hinputs p hp (by rw [houtput, heq])
  have hwritten := OutputDirectory.load_writeDocuments ⟨o.outDir⟩ hpairs fs'
  rcases result_runFiles config hnames hdir with
    ⟨_, _, hfiles⟩ | ⟨_, ⟨_, hok, _⟩ | ⟨_, saved, hsave, hsaved⟩⟩
  · rw [hfiles, hwritten]
  · rw [hok] at herror
    cases herror
  · cases saved with
    | error e =>
      obtain ⟨hdirectory, hget⟩ := OutputDirectory.write_eq_error hsave
      have hsame : FileSystem.SameDirectories _ ((o.runFiles config).result fs).2 :=
        ⟨hdirectory, fun place w => by rw [hget]⟩
      rw [← hwritten]
      exact Ledger.load_eq_of_readText fun t => hsame.readText_eq_ok_iff fun place _ => hget place
    | ok target =>
      rw [herror] at hsaved
      cases hsaved

/-- The last thing that a run writes is the ledger. -/
lemma readText_runFiles (config : Config) {name : Text} (hnames : outputNames o.inputs = .ok names)
    (hdir : OutputDirectory.prepare o.outDir fs = (.ok dir, fs'))
    (hname : OutputDirectory.isPlainName name = true) (hne : Ledger.fileName ≠ name) (t : Text) :
    ((o.runFiles config).result fs).2.readText (dir.path.join (Path.ofText name)) = .ok t ↔
      ((dir.writeDocuments ((o.report config fs').documents.zip names)).result fs').2.readText
        (dir.path.join (Path.ofText name)) = .ok t := by
  rcases result_runFiles config hnames hdir with
    ⟨_, _, hfiles⟩ | ⟨_, ⟨_, _, hfiles⟩ | ⟨_, saved, hsave, _⟩⟩
  · rw [hfiles]
  · rw [hfiles]
  · exact OutputDirectory.readText_of_write_other hsave hname hne t

/-- Whatever is put in place was made of an input, and is read from the name of that input. -/
lemma exists_input_of_mem_placed {d : Document} (hnames : outputNames o.inputs = .ok names)
    (hd : d ∈ dir.placed ((o.report config fs).documents.zip names) fs) :
    d ∈ (o.report config fs).documents ∧ ∃ p ∈ o.inputs, ∃ name html tally,
      p.outputName = .ok name ∧ OutputDirectory.isPlainName name = true ∧
      d = ⟨p.display, .monetized html tally (fingerprint html)⟩ ∧
      ((dir.writeDocuments ((o.report config fs).documents.zip names)).result fs).2.readText
        (dir.path.join (Path.ofText name)) = .ok html := by
  have hpairs : ((o.report config fs).documents.zip names).map Prod.snd = names :=
    List.map_snd_zip (Nat.le_of_eq (length_names config fs hnames))
  have hdistinct : (((o.report config fs).documents.zip names).map Prod.snd).Nodup := by
    rw [hpairs]
    exact (outputNamesAfter_eq_ok hnames).2.1
  obtain ⟨name, hmem, hplain, html, tally, fp, houtcome, hread⟩ :=
    dir.holds_of_mem_placed _ fs hdistinct hd
  obtain ⟨p, hp, hname, hdocument⟩ := exists_input_of_mem_zip hnames hmem
  have hsource : d.source = p.display := by
    rw [hdocument, Document.source_ofSource]
    rfl
  have hfp : fp = fingerprint html := by
    rw [hdocument] at houtcome
    exact Document.fingerprint_of_ofSource houtcome
  refine ⟨(List.of_mem_zip hmem).1, p, hp, name, html, tally, hname, hplain, ?_, hread⟩
  rw [← hsource, ← hfp, ← houtcome]

/-- Every page that a run puts in place is read from the name of its input afterwards. If the run
comes to its end, the ledger has the page, so it is not monetized again. If it breaks off, the ledger
is as before the documents were written. -/
theorem runFiles_recorded (o : Options) (config : Config) {fs : FileSystem} (hfit : fs.FilesFit) :
    let run := (o.runFiles config).result fs
    let prior := (Ledger.load o.outDir (OutputDirectory.prepare o.outDir fs).2).value
    let ledger := (Ledger.load o.outDir run.2).value
    ∀ d ∈ o.placed config fs, ∃ p ∈ o.inputs, ∃ name html tally, p.outputName = .ok name ∧
      d = ⟨p.display, .monetized html tally (fingerprint html)⟩ ∧
      (Ledger.fileName ≠ name → run.2.readText (o.outDir.join (Path.ofText name)) = .ok html) ∧
      (run.1.isOk = true → ledger.containsOutput (fingerprint html) = true ∧
        ∀ (s : Source) (config : Config) (settings : BatchSettings), s.page = .ok html →
          settings.force = false →
            (Document.ofSource s config ledger settings).value = ⟨s.label, .alreadyProcessed⟩) ∧
      (run.1.isOk = false → (∀ p ∈ o.inputs, p.outputName ≠ .ok Ledger.fileName) →
        ledger = prior) := by
  intro run prior ledger d hd
  unfold placed at hd
  split at hd
  · next names dir fs' hnames hdir =>
    obtain ⟨hd, p, hp, name, html, tally, hname, hplain, hdocument, hread⟩ :=
      exists_input_of_mem_placed hnames hd
    have hprepared : (OutputDirectory.prepare o.outDir fs).2 = fs' := congrArg Prod.snd hdir
    refine ⟨p, hp, name, html, tally, hname, hdocument, fun hne => ?_, fun hok => ?_,
      fun herror hinputs => ?_⟩
    · have hread := (readText_runFiles config hnames hdir hplain hne html).2 hread
      rwa [(OutputDirectory.prepare_eq_ok hdir).1] at hread
    · have hfit' : fs'.FilesFit :=
        hfit.of_makesDirectories (hprepared ▸ OutputDirectory.makesDirectories_prepare o.outDir fs)
      have hsome : 0 < (o.report config fs').monetized :=
        List.countP_pos_iff.2 ⟨d, hd, by rw [hdocument]; rfl⟩
      have hsources : ((o.report config fs').documents.map Document.source).Nodup := by
        rw [map_source_documents]
        exact nodup_display_of_outputNames hnames
      have hledger : ledger.containsOutput (fingerprint html) = true := by
        change (Ledger.load o.outDir run.2).value.containsOutput _ = true
        rw [ledger_of_isOk hfit' hnames hdir hsome hok]
        exact BatchReport.containsOutput_recordInto hsources hd (by rw [hdocument])
      refine ⟨hledger, fun s config settings hpage hforce => ?_⟩
      rw [Document.value_ofSource hpage hforce, if_pos hledger]
    · change (Ledger.load o.outDir run.2).value =
        (Ledger.load o.outDir (OutputDirectory.prepare o.outDir fs).2).value
      rw [hprepared]
      exact ledger_of_not_isOk hnames hdir hinputs herror
  · cases hd

/-- A page is recorded although another one could not be read. -/
theorem runFiles_recorded_page :
    let made := "<a href=\"https://amzn.to/x?tag=site-20\" rel=\"nofollow sponsored\">a</a>".toList
    let page : Bytes := Utf8.encode "<a href=\"https://amzn.to/x\">a</a>".toList
    let fs : FileSystem :=
      ⟨[([], .directory true), ([Path.ofText "a.html".toList], .file page)], []⟩
    let o : Options := ⟨["a.html", "b.html"].map fun name => Path.ofText name.toList,
      Path.ofText "out".toList, none, none, none, false, none, false, none, 0⟩
    let run := (o.runFiles (.ofTag "site-20".toList)).result fs
    fs.FilesFit ∧ run.1.isOk = true ∧
      (Ledger.load o.outDir run.2).value.containsOutput (fingerprint made) = true := by
  intro made page fs o run
  have hfit : fs.FilesFit := by
    intro place content hfile
    rcases List.mem_cons.1 (FileSystem.mem_of_get? hfile) with h | h
    · cases h
    · cases List.mem_singleton.1 h
      decide +kernel
  have hok : run.1.isOk = true := by decide +kernel
  let document : Document := ⟨"a.html".toList, .monetized made ⟨1, 0, 0, 0⟩ (fingerprint made)⟩
  have hplaced : document ∈ o.placed (.ofTag "site-20".toList) fs := by decide +kernel
  obtain ⟨p, _, name, html, tally, _, hdocument, _, hrecorded, _⟩ :=
    runFiles_recorded o (.ofTag "site-20".toList) hfit document hplaced
  obtain ⟨rfl, _⟩ := Outcome.monetized.inj (congrArg Document.outcome hdocument)
  exact ⟨hfit, hok, (hrecorded hok).1⟩

/-- Where the second page would be written there is a directory, so the first one is in its place and
is not recorded. -/
theorem exists_unrecorded :
    let made := ("<a href=\"https://amazon.com/dp/A?tag=site-20\" " ++
      "rel=\"nofollow sponsored\">x</a>").toList
    ∃ (o : Options) (fs : FileSystem),
      let run := (o.runFiles (.ofTag "site-20".toList)).result fs
      (∃ d ∈ o.placed (.ofTag "site-20".toList) fs,
        d.outcome = .monetized made ⟨1, 0, 0, 0⟩ (fingerprint made)) ∧
      run.2.readText (Path.ofText "out/a.html".toList) = .ok made ∧
      (Ledger.load o.outDir run.2).value.containsOutput (fingerprint made) = false := by
  intro made
  let place (names : List String) : Place := names.map fun name => Path.ofText name.toList
  let page (name : String) : Place × Entry := (place ["in", name ++ ".html"],
    .file (Utf8.encode ("<a href=\"https://amazon.com/dp/".toList ++ name.toList.map Char.toUpper ++
      "\">x</a>".toList)))
  let fs : FileSystem := ⟨[([], .directory true), (place ["in"], .directory true), page "a", page "b",
    (place ["out"], .directory true), (place ["out", "b.html"], .directory true)], []⟩
  let o : Options := ⟨["in/a.html", "in/b.html"].map fun name => Path.ofText name.toList,
    Path.ofText "out".toList, none, none, none, false, none, false, none, 0⟩
  let document : Document := ⟨"in/a.html".toList, .monetized made ⟨1, 0, 0, 0⟩ (fingerprint made)⟩
  have hplaced : document ∈ o.placed (.ofTag "site-20".toList) fs := by decide +kernel
  exact ⟨o, fs, ⟨document, hplaced, rfl⟩, by decide +kernel⟩

end Recorded

end Command.Options

end AffiliateLinks
