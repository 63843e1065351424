import AffiliateLinks.Proofs.SavedRuns

/-!
# What a run leaves in its output directory

When a run has come to its end, each monetized page stands under the name of its input, and the ledger
in its own file. Nothing else has changed, apart from directories that were missing. The ledger is
written last, so the page of an input that is named as the ledger's file gives way to it.
-/

namespace AffiliateLinks

namespace OutputDirectory

variable {d : OutputDirectory} {fs fs' : FileSystem} {base : Place} {name html fp : Text}
  {tally : Tally} {path : Path}

/-- A document that is written stands at its name in the directory. -/
lemma get?_of_write (h : d.write name html fs = (.ok path, fs'))
    (hbase : fs.resolve d.path = .ok base) :
    fs'.get? (base ++ [Path.ofText name]) = some (.file (Utf8.encode html)) := by
  obtain ⟨hname, rfl, _, _, place, hplace, hget⟩ := write_eq_ok h
  obtain ⟨hne, hslash, hhere, habove⟩ := ofText_of_isPlainName hname
  have hat : place = base ++ [Path.ofText name] := FileSystem.resolve_join hbase hne hslash hhere
    habove (FileSystem.writable_eq_ok_iff.1 hplace).1
  rw [hget, if_pos hat.symm]

lemma append_ofText_ne {other : Text} (h : other ≠ name) :
    base ++ [Path.ofText other] ≠ base ++ [Path.ofText name] := by
  intro heq
  exact h (Utf8.encode_injective (List.cons.inj (List.append_cancel_left heq)).1)

/-- If all documents could be written, each monetized one stands at its name, as no other one has that
name. -/
theorem get?_writeDocuments (d : OutputDirectory) (pairs : List (Document × Text)) (fs : FileSystem)
    (hnames : (pairs.map Prod.snd).Nodup) (hbase : fs.resolve d.path = .ok base)
    (hok : ((d.writeDocuments pairs).result fs).1.isOk = true) {document : Document}
    (hmem : (document, name) ∈ pairs) (hpage : document.outcome = .monetized html tally fp) :
    ((d.writeDocuments pairs).result fs).2.get? (base ++ [Path.ofText name]) =
      some (.file (Utf8.encode html)) := by
  induction pairs, fs using writing_induction d with
  | nil fs => cases hmem
  | passed other otherName rest fs hnot ih =>
    rw [(writing_of_not_monetized otherName rest fs hnot).1] at hok ⊢
    rcases List.mem_cons.1 hmem with heq | hmem
    · obtain ⟨rfl, rfl⟩ := Prod.mk.inj heq
      rw [hpage] at hnot
      cases hnot
    · exact ih (List.nodup_cons.1 hnames).2 hbase hok hmem
  | failed other otherName rest fs html' tally' fp' e fs' ho hwrite =>
    rw [(writing_of_error rest ho hwrite).1] at hok
    cases hok
  | written other otherName rest fs html' tally' fp' path fs' ho hwrite ih =>
    obtain ⟨hother, hnames⟩ := List.nodup_cons.1 hnames
    obtain ⟨hsame, _⟩ := d.write_frame otherName html' fs
    rw [hwrite] at hsame
    rw [(writing_of_ok rest ho hwrite).1] at hok ⊢
    rcases List.mem_cons.1 hmem with heq | hmem
    · obtain ⟨rfl, rfl⟩ := Prod.mk.inj heq
      rw [hpage] at ho
      cases ho
      refine ((d.writeDocuments_frame rest fs').2 _ fun base' hbase' pair hpair _ => ?_).trans
        (get?_of_write hwrite hbase)
      rw [hsame.resolve_eq_ok_iff, hbase] at hbase'
      cases hbase'
      exact append_ofText_ne fun heq => hother (List.mem_map.2 ⟨pair, hpair, heq.symm⟩)
    · refine ih hnames (hsame.resolve_eq_ok_iff.2 hbase) ?_ hmem
      cases hrest : ((d.writeDocuments rest).result fs').1 with
      | ok paths => rfl
      | error e =>
        rw [hrest] at hok
        cases hok

end OutputDirectory

namespace Command.Options

variable {o : Options} {config : Config} {fs fs' : FileSystem} {names : List Text}

/-- A run comes to its end only in a directory that can be written into. -/
lemma exists_prepare_of_isOk (hnames : outputNames o.inputs = .ok names)
    (hok : ((o.runFiles config).result fs).1.isOk = true) :
    ∃ dir fs', OutputDirectory.prepare o.outDir fs = (.ok dir, fs') := by
  cases hprepare : OutputDirectory.prepare o.outDir fs with
  | mk made fs' =>
    cases made with
    | ok dir => exact ⟨dir, fs', rfl⟩
    | error e =>
      have hnamed : (Work.inspect fun _ => (outputNames o.inputs).mapError Failure.ofWrite).result
          fs = (.ok names, fs) := by
        rw [Work.result_inspect, hnames]
        rfl
      have hprepared : (Work.perform (OutputDirectory.prepare o.outDir)).result fs = (.error e, fs') :=
        hprepare
      unfold runFiles at hok
      rw [Work.result_bind_of_ok hnamed, Work.result_mapError_bind_of_error hprepared] at hok
      cases hok

/-- After the documents, a run that comes to its end writes its ledger, if there is anything new in it,
and nothing else. -/
lemma files_of_isOk {dir : OutputDirectory} {base : Place} (hnames : outputNames o.inputs = .ok names)
    (hdir : OutputDirectory.prepare o.outDir fs = (.ok dir, fs')) (hbase : fs'.resolve dir.path = .ok base)
    (hok : ((o.runFiles config).result fs).1.isOk = true) :
    let report := o.report config fs'
    let ledger := report.recordInto (Ledger.load o.outDir fs').value
    let written := (dir.writeDocuments (report.documents.zip names)).result fs'
    let files := ((o.runFiles config).result fs).2
    written.1.isOk = true ∧ written.2.SameDirectories files ∧
      (0 < report.monetized → files.get? (base ++ [Path.ofText Ledger.fileName]) =
        some (.file (Utf8.encode ledger.render))) ∧
      ∀ place, (0 < report.monetized → place ≠ base ++ [Path.ofText Ledger.fileName]) →
        files.get? place = written.2.get? place := by
  intro report ledger written files
  rcases result_runFiles config hnames hdir with
    ⟨_, herror, _⟩ | ⟨hwritten, ⟨hnone, _, hfiles⟩ | ⟨hsome, saved, hsave, hsaved⟩⟩
  · rw [hok] at herror
    cases herror
  · refine ⟨hwritten, ?_, fun hsome => absurd hnone (Nat.ne_of_gt hsome), fun place _ => ?_⟩
    · change written.2.SameDirectories ((o.runFiles config).result fs).2
      rw [hfiles]
      exact .refl _
    · exact congrArg (FileSystem.get? · place) hfiles
  · have hbase : written.2.resolve dir.path = .ok base :=
      (dir.writeDocuments_frame _ fs').1.resolve_eq_ok_iff.2 hbase
    obtain ⟨hsame, hframe⟩ := dir.write_frame Ledger.fileName ledger.render written.2
    rw [hsave] at hsame hframe
    refine ⟨hwritten, hsame, fun _ => ?_, fun place hplace => hframe place fun base' hbase' => ?_⟩
    · cases saved with
      | error e =>
        rw [hok] at hsaved
        cases hsaved
      | ok path => exact OutputDirectory.get?_of_write hsave hbase
    · rw [hbase] at hbase'
      cases hbase'
      exact hplace hsome

/-- A run that comes to its end leaves every page at the name of its input, unless that is the name of
the ledger's file, and there the ledger if there are any pages. All other places are as before,
apart from directories that were made on the way to the output directory. -/
theorem runFiles_outputs (o : Options) (config : Config) {fs : FileSystem} {names : List Text}
    (hnames : outputNames o.inputs = .ok names)
    (hok : ((o.runFiles config).result fs).1.isOk = true) :
    let prepared := (OutputDirectory.prepare o.outDir fs).2
    let report := o.report config prepared
    let ledger := report.recordInto (Ledger.load o.outDir prepared).value
    let files := ((o.runFiles config).result fs).2
    ∃ base, files.lookup o.outDir = .ok (base, .directory true) ∧
      (∀ (i : Nat) (source name html fp : Text) (tally : Tally),
        report.documents[i]? = some ⟨source, .monetized html tally fp⟩ → names[i]? = some name →
          name ≠ Ledger.fileName →
            files.get? (base ++ [Path.ofText name]) = some (.file (Utf8.encode html))) ∧
      (0 < report.monetized → files.get? (base ++ [Path.ofText Ledger.fileName]) =
        some (.file (Utf8.encode ledger.render))) ∧
      ∀ place,
        (∀ (i : Nat) (source name html fp : Text) (tally : Tally),
          report.documents[i]? = some ⟨source, .monetized html tally fp⟩ → names[i]? = some name →
            place ≠ base ++ [Path.ofText name]) →
        (0 < report.monetized → place ≠ base ++ [Path.ofText Ledger.fileName]) →
          files.get? place = fs.get? place ∨
            fs.get? place = none ∧ files.get? place = some (.directory true) := by
  obtain ⟨dir, fs', hdir⟩ := exists_prepare_of_isOk hnames hok
  obtain ⟨rfl, base, hlookup⟩ := OutputDirectory.prepare_eq_ok hdir
  have hmade := OutputDirectory.makesDirectories_prepare o.outDir fs
  rw [congrArg Prod.snd hdir] at hmade ⊢
  intro prepared report ledger files
  have hbase := (FileSystem.lookup_eq_ok_iff.1 hlookup).1
  obtain ⟨hwritten, hdirectories, hledger, hfiles⟩ := files_of_isOk hnames hdir hbase hok
  obtain ⟨hsame, hframe⟩ :=
    (OutputDirectory.mk o.outDir).writeDocuments_frame (report.documents.zip names) prepared
  have hzip {i : Nat} {d : Document} {name : Text} (hd : report.documents[i]? = some d)
      (hname : names[i]? = some name) : (d, name) ∈ report.documents.zip names :=
    List.mem_of_getElem? (List.getElem?_zip_eq_some.2 ⟨hd, hname⟩)
  have hdistinct : ((report.documents.zip names).map Prod.snd).Nodup := by
    rw [List.map_snd_zip (Nat.le_of_eq (length_names config prepared hnames))]
    exact (outputNamesAfter_eq_ok hnames).2.1
  refine ⟨base, (hsame.trans hdirectories).lookup_directory_iff.2 hlookup,
    fun i source name html fp tally hd hname hne => ?_, hledger, fun place hpages hplace => ?_⟩
  · have hpage := (OutputDirectory.mk o.outDir).get?_writeDocuments _ prepared hdistinct hbase
      hwritten (hzip hd hname) rfl
    exact (hfiles _ fun _ => OutputDirectory.append_ofText_ne hne).trans hpage
  · have hplace : files.get? place = prepared.get? place := by
      refine (hfiles place hplace).trans (hframe place fun base' hbase' pair hpair hmonetized => ?_)
      rw [hbase] at hbase'
      cases hbase'
      obtain ⟨⟨source, outcome⟩, name⟩ := pair
      obtain ⟨i, hi⟩ := List.getElem?_of_mem hpair
      obtain ⟨hd, hname⟩ := List.getElem?_zip_eq_some.1 hi
      cases outcome with
      | monetized html tally fp => exact hpages i source name html fp tally hd hname
      | alreadyProcessed => cases hmonetized
      | failed cause => cases hmonetized
    rw [hplace]
    exact hmade place

/-- A page is written although another one could not be read, and a file beside it stays. -/
theorem runFiles_outputs_page :
    let made := "<a href=\"https://amzn.to/x?tag=site-20\" rel=\"nofollow sponsored\">a</a>".toList
    let place (names : List String) : Place := names.map fun name => Path.ofText name.toList
    let page : Entry := .file (Utf8.encode "<a href=\"https://amzn.to/x\">a</a>".toList)
    let fs : FileSystem := ⟨[([], .directory true), (place ["a.html"], page),
      (place ["out"], .directory true), (place ["out", "b.html"], page)], []⟩
    let o : Options := ⟨["a.html", "b.html"].map fun name => Path.ofText name.toList,
      Path.ofText "out".toList, none, none, none, false, none, false, none, 0⟩
    let run := (o.runFiles (.ofTag "site-20".toList)).result fs
    run.1.isOk = true ∧
      run.2.get? (place ["out", "a.html"]) = some (.file (Utf8.encode made)) ∧
      run.2.get? (place ["out", "b.html"]) = some page := by
  intro made place page fs o run
  let config : Config := .ofTag "site-20".toList
  let documents : List Document := [⟨"a.html".toList, .monetized made ⟨1, 0, 0, 0⟩ (fingerprint made)⟩,
    ⟨"b.html".toList, .failed (.unreadable (Path.ofText "b.html".toList) .notFound)⟩]
  have hnames : outputNames o.inputs = .ok ["a.html".toList, "b.html".toList] := by decide +kernel
  have hrun : run.1.isOk = true ∧ run.2.lookup o.outDir = .ok (place ["out"], .directory true) ∧
      (o.report config (OutputDirectory.prepare o.outDir fs).2).documents = documents ∧
      fs.get? (place ["out", "b.html"]) = some page := by decide +kernel
  obtain ⟨hok, hlookup, hdocuments, hbefore⟩ := hrun
  obtain ⟨base, hbase, hpages, _, hframe⟩ := runFiles_outputs o config hnames hok
  cases hbase.symm.trans hlookup
  refine ⟨hok, hpages 0 _ _ _ _ _ (by rw [hdocuments]; rfl) rfl (by decide), ?_⟩
  have hb := hframe (place ["out", "b.html"]) (fun i source name html fp tally hd hname => ?_)
    fun _ => by decide
  · rcases hb with hb | ⟨hnone, _⟩
    · exact hb.trans hbefore
    · rw [hbefore] at hnone
      cases hnone
  · rw [hdocuments] at hd
    match i with
    | 0 =>
      cases hname
      decide
    | 1 => cases hd
    | i + 2 => cases hd

/-- The page of an input that is named as the ledger's file is written, and the ledger over it. -/
theorem exists_page_overwritten :
    let made := "<a href=\"https://amzn.to/x?tag=site-20\" rel=\"nofollow sponsored\">a</a>".toList
    ∃ (o : Options) (config : Config) (fs : FileSystem),
      let run := (o.runFiles config).result fs
      Config.build "site-20".toList [] = .ok config ∧
      outputNames o.inputs = .ok [Ledger.fileName] ∧ run.1.isOk = true ∧
      (o.report config (OutputDirectory.prepare o.outDir fs).2).documents =
        [⟨"in/.monetizer_ledger.ron".toList, .monetized made ⟨1, 0, 0, 0⟩ (fingerprint made)⟩] ∧
      (run.2.readText (o.outDir.join (Path.ofText Ledger.fileName))).isOk = true ∧
      run.2.readText (o.outDir.join (Path.ofText Ledger.fileName)) ≠ .ok made := by
  intro made
  let place (names : List String) : Place := names.map fun name => Path.ofText name.toList
  let fs : FileSystem := ⟨[([], .directory true), (place ["in"], .directory true),
    (place ["in", ".monetizer_ledger.ron"],
      .file (Utf8.encode "<a href=\"https://amzn.to/x\">a</a>".toList))], []⟩
  let o : Options := ⟨[Path.ofText "in/.monetizer_ledger.ron".toList], Path.ofText "out".toList,
    none, none, none, false, none, false, none, 0⟩
  exact ⟨o, .ofTag "site-20".toList, fs, Config.build_nil _ (by decide), by decide +kernel⟩

end Command.Options

end AffiliateLinks
