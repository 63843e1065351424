import AffiliateLinks.Proofs.Schedules

/-!
# What a ledger remembers

An entry of a ledger gives way to the next record of its source. So what a ledger holds after many
records is the last entry of each source, and the entries that were there before and were not
replaced. Batches that share a ledger recognize the pages whose fingerprints are among these, and
all the others they monetize again.
-/

namespace AffiliateLinks

namespace Ledger

variable {l : Ledger} {es : List LedgerEntry} {d e : LedgerEntry}

/-- A record takes the place of the first entry with its source, or goes to the end. -/
lemma record_cases (e : LedgerEntry) (l : Ledger) :
    ((∀ d ∈ l, d.source ≠ e.source) ∧ record e l = l ++ [e]) ∨
      ∃ front d back, l = front ++ d :: back ∧ d.source = e.source ∧
        (∀ c ∈ front, c.source ≠ e.source) ∧ record e l = front ++ e :: back := by
  induction l with
  | nil => exact .inl ⟨nofun, rfl⟩
  | cons d ds ih =>
    by_cases hd : d.source = e.source
    · exact .inr ⟨[], d, ds, rfl, hd, nofun, if_pos hd⟩
    · rw [record, if_neg hd]
      rcases ih with ⟨hnew, hrecord⟩ | ⟨front, c, back, rfl, hc, hfront, hrecord⟩
      · exact .inl ⟨List.forall_mem_cons.2 ⟨hd, hnew⟩, congrArg (d :: ·) hrecord⟩
      · exact .inr ⟨d :: front, c, back, rfl, hc, List.forall_mem_cons.2 ⟨hd, hfront⟩,
          congrArg (d :: ·) hrecord⟩

/-- The entry is the last of its source among the records. -/
def IsLatest (es : List LedgerEntry) (e : LedgerEntry) : Prop :=
  ∃ earlier later, es = earlier ++ e :: later ∧ ∀ d ∈ later, d.source ≠ e.source

/-- The entry stands in the ledger, and no record takes its place. Records of its source go to the
place of an earlier entry, if there are any. -/
def IsKept (l : Ledger) (es : List LedgerEntry) (e : LedgerEntry) : Prop :=
  ∃ front back, l = front ++ e :: back ∧
    ((∃ d ∈ es, d.source = e.source) → ∃ d ∈ front, d.source = e.source)

lemma isLatest_cons : IsLatest (d :: es) e ↔
    (e = d ∧ ∀ c ∈ es, c.source ≠ d.source) ∨ IsLatest es e := by
  constructor
  · rintro ⟨earlier, later, h, hlater⟩
    cases earlier with
    | nil =>
      obtain ⟨rfl, rfl⟩ := List.cons_eq_cons.1 h
      exact .inl ⟨rfl, hlater⟩
    | cons c earlier => exact .inr ⟨earlier, later, (List.cons_eq_cons.1 h).2, hlater⟩
  · rintro (⟨rfl, h⟩ | ⟨earlier, later, rfl, h⟩)
    · exact ⟨[], es, rfl, h⟩
    · exact ⟨d :: earlier, later, rfl, h⟩

lemma isKept_append_cons {front back : Ledger} : IsKept (front ++ d :: back) es e ↔
    IsKept front es e ∨ (e = d ∧ ((∃ c ∈ es, c.source = e.source) → ∃ c ∈ front, c.source = e.source)) ∨
      ∃ f b, back = f ++ e :: b ∧
        ((∃ c ∈ es, c.source = e.source) → ∃ c ∈ front ++ d :: f, c.source = e.source) := by
  constructor
  · rintro ⟨f, b, heq, hkept⟩
    rcases List.append_eq_append_iff.1 heq with ⟨m, hf, hm⟩ | ⟨m, hf, hm⟩
    · cases m with
      | nil =>
        obtain ⟨rfl, rfl⟩ := List.cons_eq_cons.1 hm
        rw [List.append_nil] at hf
        exact .inr (.inl ⟨rfl, hf ▸ hkept⟩)
      | cons c m =>
        obtain ⟨rfl, rfl⟩ := List.cons_eq_cons.1 hm
        exact .inr (.inr ⟨m, b, rfl, hf ▸ hkept⟩)
    · cases m with
      | nil =>
        obtain ⟨rfl, rfl⟩ := List.cons_eq_cons.1 hm
        rw [List.append_nil] at hf
        exact .inr (.inl ⟨rfl, hf ▸ hkept⟩)
      | cons c m =>
        obtain ⟨rfl, rfl⟩ := List.cons_eq_cons.1 hm
        exact .inl ⟨f, m, hf, hkept⟩
  · rintro (⟨f, b, rfl, hkept⟩ | ⟨rfl, hkept⟩ | ⟨f, b, rfl, hkept⟩)
    · exact ⟨f, b ++ d :: back, by rw [List.append_assoc, List.cons_append], hkept⟩
    · exact ⟨front, back, rfl, hkept⟩
    · exact ⟨front ++ d :: f, b, by rw [List.append_assoc, List.cons_append], hkept⟩

/-- What stands of a ledger and its records, stands of the next ledger and the other records. -/
lemma isKept_record (l : Ledger) (es : List LedgerEntry) (d e : LedgerEntry) :
    IsKept (record d l) es e ↔
      (e = d ∧ ∀ c ∈ es, c.source ≠ d.source) ∨ IsKept l (d :: es) e := by
  have hkept {front : Ledger} (h : ∀ c ∈ front, c.source ≠ d.source) :
      IsKept front es e ↔ IsKept front (d :: es) e := by
    refine exists_congr fun f => exists_congr fun b => and_congr_right fun hf => ?_
    have he : d.source ≠ e.source := by
      refine (h e ?_).symm
      rw [hf]
      exact List.mem_append_right _ List.mem_cons_self
    simp only [List.mem_cons, exists_eq_or_imp, he, false_or]
  have hnew {front : Ledger} (h : ∀ c ∈ front, c.source ≠ d.source) :
      (e = d ∧ ((∃ c ∈ es, c.source = e.source) → ∃ c ∈ front, c.source = e.source)) ↔
        e = d ∧ ∀ c ∈ es, c.source ≠ d.source := by
    refine and_congr_right ?_
    rintro rfl
    constructor
    · intro himp c hc hs
      obtain ⟨x, hx, hxs⟩ := himp ⟨c, hc, hs⟩
      exact h x hx hxs
    · rintro hes ⟨c, hc, hs⟩
      exact absurd hs (hes c hc)
  rcases record_cases d l with ⟨h, hrecord⟩ | ⟨front, x, back, rfl, hx, h, hrecord⟩
  · rw [hrecord, isKept_append_cons, hnew h, hkept h]
    simp [or_comm]
  · rw [hrecord, isKept_append_cons, isKept_append_cons, hnew h, hkept h]
    have hold : ¬(e = x ∧ ((∃ c ∈ d :: es, c.source = e.source) →
        ∃ c ∈ front, c.source = e.source)) := by
      rintro ⟨rfl, himp⟩
      obtain ⟨c, hc, hs⟩ := himp ⟨d, List.mem_cons_self, hx.symm⟩
      exact h c hc (hs.trans hx)
    have hback : ∀ f : Ledger, ((∃ c ∈ es, c.source = e.source) →
          ∃ c ∈ front ++ d :: f, c.source = e.source) ↔
        ((∃ c ∈ d :: es, c.source = e.source) → ∃ c ∈ front ++ x :: f, c.source = e.source) := by
      intro f
      simp only [List.mem_append, List.mem_cons, or_and_right, exists_or, exists_eq_left, hx]
      by_cases he : d.source = e.source
      · simp only [he, true_or, or_true, implies_true]
      · simp only [he, false_or]
    simp only [hold, hback, false_or]
    exact or_left_comm

theorem mem_foldl_record (es : List LedgerEntry) (l : Ledger) (e : LedgerEntry) :
    e ∈ es.foldl (fun l e => record e l) l ↔ IsLatest es e ∨ IsKept l es e := by
  induction es generalizing l with
  | nil =>
    have hlatest : ¬IsLatest [] e := by
      rintro ⟨earlier, later, h, _⟩
      exact List.cons_ne_nil _ _ (List.append_eq_nil_iff.1 h.symm).2
    have hkept : IsKept l [] e ↔ e ∈ l := by
      simp only [IsKept, List.not_mem_nil, false_and, exists_false, false_imp_iff, and_true]
      exact List.mem_iff_append.symm
    rw [hkept, or_iff_right hlatest]
    rfl
  | cons d es ih =>
    rw [List.foldl_cons, ih, isKept_record, isLatest_cons]
    tauto

end Ledger

namespace Document

variable {s : Source} {config : Config} {ledger : Ledger} {settings : BatchSettings} {html : Text}

/-- Without force, the pages that the ledger contains are left alone, and no others. -/
lemma value_ofSource (hpage : s.page = .ok html) (hforce : settings.force = false) :
    (ofSource s config ledger settings).value =
      if ledger.containsOutput (fingerprint html) then ⟨s.label, .alreadyProcessed⟩
      else ⟨s.label,
        .ofPage (MonetizedPage.ofHtml html config settings.brand).value settings.disclosure⟩ := by
  unfold ofSource
  rw [hpage]
  simp only [hforce, Bool.not_false, Bool.true_and]
  split
  · rfl
  · rfl

lemma source_ofSource : (ofSource s config ledger settings).value.source = s.label := by
  unfold ofSource
  split
  · rfl
  · split
    · rfl
    · rfl

/-- A document that was monetized is the page of its source, with the disclosure. -/
lemma exists_page_of_ofSource {tally : Tally} {fp : Text}
    (h : (ofSource s config ledger settings).value.outcome = .monetized html tally fp) :
    ∃ page, s.page = .ok page ∧ .monetized html tally fp =
      Outcome.ofPage (MonetizedPage.ofHtml page config settings.brand).value settings.disclosure := by
  unfold ofSource at h
  split at h
  · cases h
  · next page hpage =>
    split at h
    · cases h
    · exact ⟨page, hpage, h.symm⟩

lemma fingerprint_of_ofSource {tally : Tally} {fp : Text}
    (h : (ofSource s config ledger settings).value.outcome = .monetized html tally fp) :
    fp = fingerprint html := by
  obtain ⟨page, _, houtcome⟩ := exists_page_of_ofSource h
  obtain ⟨rfl, _, rfl⟩ := Outcome.monetized.inj houtcome
  rfl

end Document

namespace BatchReport

open Batch (Job)

/-- Reports of batches that were run one after the other with one ledger, each recorded into it
before the next: the ledger at first, the reports, and the ledger in the end. -/
inductive History : Ledger → List BatchReport → Ledger → Prop
  | nil (l : Ledger) : History l [] l
  | cons {j : Job} {schedule : List Nat} {report : BatchReport} {reports : List BatchReport}
    {l : Ledger} (hdone : (j.runSchedule schedule).isDone)
    (hreport : (j.runSchedule schedule).report = report)
    (hrest : History (report.recordInto j.ledger) reports l) : History j.ledger (report :: reports) l

/-- What was recorded of the documents of several reports, the earliest first. -/
def entries (reports : List BatchReport) : List LedgerEntry :=
  (reports.flatMap documents).filterMap Document.entry?

variable {l l' : Ledger} {reports : List BatchReport} {d : Document} {html fp : Text} {tally : Tally}

lemma History.ledger_eq (h : History l reports l') :
    l' = (entries reports).foldl (fun l e => l.record e) l := by
  induction h with
  | nil l => rfl
  | cons hdone hreport hrest ih =>
    rw [ih, entries, entries, List.flatMap_cons, List.filterMap_append, List.foldl_append]
    rfl

/-- A page is recorded with its own fingerprint. -/
lemma History.fingerprint_eq (h : History l reports l') (hd : d ∈ reports.flatMap documents)
    (hpage : d.outcome = .monetized html tally fp) : fp = fingerprint html := by
  induction h with
  | nil l => cases hd
  | cons hdone hreport hrest ih =>
    rcases List.mem_append.1 hd with hd | hd
    · rw [← hreport, Job.report_runSchedule hdone, Job.documents_run] at hd
      obtain ⟨s, _, rfl⟩ := List.mem_map.1 hd
      exact Document.fingerprint_of_ofSource hpage
    · exact ih hd

/-- An entry that is not followed by one of its source is the latest of its source. -/
lemma isLatest_entries {earlier later : List Document}
    (hreports : reports.flatMap documents = earlier ++ d :: later)
    (hpage : d.outcome = .monetized html tally fp)
    (hlater : ∀ c ∈ later, c.source = d.source → c.outcome.isMonetized = false) :
    Ledger.IsLatest (entries reports) ⟨d.source, fp, tally⟩ := by
  have hentry : d.entry? = some ⟨d.source, fp, tally⟩ := by rw [Document.entry?, hpage]
  refine ⟨earlier.filterMap Document.entry?, later.filterMap Document.entry?, ?_, ?_⟩
  · rw [entries, hreports, List.filterMap_append, List.filterMap_cons_some hentry]
  · intro e he hsource
    obtain ⟨c, hc, hce⟩ := List.mem_filterMap.1 he
    unfold Document.entry? at hce
    split at hce
    · next hc' =>
      cases hce
      have := hlater c hc hsource
      rw [hc'] at this
      cases this
    · cases hce

/-- A batch without force recognizes a page exactly if its fingerprint is that of the last page that
was made of some source, or that of an entry from before the history that no record replaced. So it
recognizes every page that was made, until another one is made of the same source. -/
theorem History.alreadyProcessed_iff {j : Job} {schedule : List Nat} {i : Nat} {s : Source}
    (h : History l reports j.ledger) (hforce : j.settings.force = false)
    (hdone : (j.runSchedule schedule).isDone) (hs : j.sources[i]? = some s)
    (hpage : s.page = .ok html) :
    let document := (j.runSchedule schedule).report.documents[i]?
    (document = some ⟨s.label, .alreadyProcessed⟩ ↔ ∃ e : LedgerEntry,
      e.fingerprint = fingerprint html ∧
        (Ledger.IsLatest (entries reports) e ∨ Ledger.IsKept l (entries reports) e)) ∧
    ∀ (earlier later : List Document) (d : Document) (tally : Tally) (fp : Text),
      reports.flatMap documents = earlier ++ d :: later → d.outcome = .monetized html tally fp →
      (∀ c ∈ later, c.source = d.source → c.outcome.isMonetized = false) →
        document = some ⟨s.label, .alreadyProcessed⟩ := by
  intro document
  have hdocument : document = some (Document.ofSource s j.config j.ledger j.settings).value := by
    change (j.runSchedule schedule).report.documents[i]? = _
    rw [Job.report_runSchedule hdone, Job.documents_run, List.getElem?_map, hs]
    rfl
  have hcontains : document = some ⟨s.label, .alreadyProcessed⟩ ↔
      j.ledger.containsOutput (fingerprint html) = true := by
    rw [hdocument, Option.some.injEq, Document.value_ofSource hpage hforce]
    split
    · next hc => exact iff_of_true rfl hc
    · next hc => exact iff_of_false (by simp [Outcome.ofPage]) hc
  have hiff : document = some ⟨s.label, .alreadyProcessed⟩ ↔ ∃ e : LedgerEntry,
      e.fingerprint = fingerprint html ∧
        (Ledger.IsLatest (entries reports) e ∨ Ledger.IsKept l (entries reports) e) := by
    rw [hcontains, Ledger.containsOutput, List.any_eq_true]
    refine exists_congr fun e => ?_
    rw [decide_eq_true_eq, and_comm, h.ledger_eq, Ledger.mem_foldl_record]
  refine ⟨hiff, fun earlier later d tally fp hreports hmonetized hlater => hiff.2 ?_⟩
  have hd : d ∈ reports.flatMap documents := by
    rw [hreports]
    exact List.mem_append_right _ List.mem_cons_self
  exact ⟨_, h.fingerprint_eq hd hmonetized, .inl (isLatest_entries hreports hmonetized hlater)⟩

/-- Two pages of one source, in runs without force: when the first comes back, its link is wrapped once
more. -/
theorem History.exists_forgotten :
    let made := ("<a href=\"https://go.redirectingat.com/?id=pub&url=https%3A%2F%2F" ++
      "shop.example.com%2F\" rel=\"nofollow sponsored\">a</a>").toList
    let turns := List.replicate 9 0
    let report (j : Job) := (j.runSchedule turns).report
    ∃ first second third : Job,
      (∀ j ∈ [first, second, third], j.settings.force = false ∧ (j.runSchedule turns).isDone) ∧
      first.ledger = [] ∧ second.ledger = (report first).recordInto first.ledger ∧
      third.ledger = (report second).recordInto second.ledger ∧
      History [] [report first, report second] third.ledger ∧
      (∃ d ∈ (report first).documents,
        d.outcome = .monetized made ⟨0, 1, 0, 0⟩ (fingerprint made)) ∧
      third.sources = [.ofText "post".toList made] ∧ (report third).alreadyProcessed = 0 ∧
      (report third).totals = ⟨0, 1, 0, 0⟩ := by
  intro made turns report
  let config := { Config.ofTag "site-20".toList with skimlinksId := some "pub".toList }
  let job (html : Text) (ledger : Ledger) : Job := ⟨[.ofText "post".toList html], config, ledger, {}⟩
  let monetized (html : Text) (tally : Tally) : BatchReport :=
    ⟨[⟨"post".toList, .monetized html tally (fingerprint html)⟩]⟩
  let first := job "<a href=\"https://shop.example.com/\">a</a>".toList []
  let second := job "b".toList [⟨"post".toList, fingerprint made, ⟨0, 1, 0, 0⟩⟩]
  let third := job made [⟨"post".toList, fingerprint "b".toList, .zero⟩]
  have hfirst : (first.runSchedule turns).isDone ∧
      report first = monetized made ⟨0, 1, 0, 0⟩ := by decide +kernel
  have hsecond : (second.runSchedule turns).isDone ∧
      report second = monetized "b".toList .zero := by decide +kernel
  have hthird : (third.runSchedule turns).isDone ∧ (report third).alreadyProcessed = 0 ∧
      (report third).totals = ⟨0, 1, 0, 0⟩ := by decide +kernel
  have hruns : ∀ j ∈ [first, second, third],
      j.settings.force = false ∧ (j.runSchedule turns).isDone := by
    simp only [List.forall_mem_cons]
    exact ⟨⟨rfl, hfirst.1⟩, ⟨rfl, hsecond.1⟩, ⟨rfl, hthird.1⟩, nofun⟩
  have hledger : second.ledger = (report first).recordInto first.ledger := by
    rw [hfirst.2]
    rfl
  have hledger' : third.ledger = (report second).recordInto second.ledger := by
    rw [hsecond.2]
    rfl
  have hhistory : History first.ledger [report first, report second] third.ledger := by
    refine .cons hfirst.1 rfl ?_
    rw [← hledger]
    refine .cons hsecond.1 rfl ?_
    rw [← hledger']
    exact .nil _
  have hmade : ∃ d ∈ (report first).documents,
      d.outcome = .monetized made ⟨0, 1, 0, 0⟩ (fingerprint made) := by
    rw [hfirst.2]
    exact ⟨_, List.mem_cons_self, rfl⟩
  exact ⟨first, second, third, hruns, rfl, hledger, hledger', hhistory, hmade, rfl, hthird.2⟩

/-- Of two sources each has its page recognized, here by the second of two workers. -/
theorem History.alreadyProcessed_after_two :
    let made := "<a href=\"https://amzn.to/x?tag=site-20\" rel=\"nofollow sponsored\">a</a>".toList
    let ledger : Ledger := [⟨"post".toList, fingerprint made, ⟨1, 0, 0, 0⟩⟩,
      ⟨"page".toList, fingerprint "b".toList, .zero⟩]
    let j : Job := ⟨[.ofText "copy".toList "c".toList, .ofText "post".toList made],
      .ofTag "site-20".toList, ledger, { workers := 2 }⟩
    let turns := [0, 1] ++ List.replicate 9 1 ++ List.replicate 9 0
    (∃ reports, History [] reports ledger) ∧ (j.runSchedule turns).isDone ∧
      (j.runSchedule turns).report.documents[1]? = some ⟨"post".toList, .alreadyProcessed⟩ := by
  intro made ledger j turns
  let first : Job := ⟨[.ofText "post".toList "<a href=\"https://amzn.to/x\">a</a>".toList,
    .ofText "page".toList "b".toList], .ofTag "site-20".toList, [], { workers := 2 }⟩
  let post : Document := ⟨"post".toList, .monetized made ⟨1, 0, 0, 0⟩ (fingerprint made)⟩
  let page : Document := ⟨"page".toList, .monetized "b".toList .zero (fingerprint "b".toList)⟩
  have hfirst : (first.runSchedule turns).isDone ∧
      (first.runSchedule turns).report = ⟨[post, page]⟩ := by decide +kernel
  have hdone : (j.runSchedule turns).isDone := by decide +kernel
  have hhistory : History [] [⟨[post, page]⟩] j.ledger := .cons hfirst.1 hfirst.2 (.nil _)
  have hlater : ∀ c ∈ [page], c.source = post.source → c.outcome.isMonetized = false := by
    intro c hc hsource
    rw [List.mem_singleton.1 hc] at hsource
    exact absurd hsource (by decide)
  have hsource : j.sources[1]? = some (.ofText "post".toList made) := rfl
  have hrecognized := (hhistory.alreadyProcessed_iff rfl hdone hsource rfl).2
  exact ⟨⟨_, hhistory⟩, hdone, hrecognized [] [page] post _ _ rfl rfl hlater⟩

end BatchReport

end AffiliateLinks
