import AffiliateLinks.Batch.Report
import AffiliateLinks.Proofs.LedgerFile

/-!
# Documents that are written one after the other

Each monetized document is put in place under its name, up to the first that cannot be written. What
stands under other names stays as it is, so every page that was put in place is read from its name
afterwards.
-/

namespace AffiliateLinks.OutputDirectory

variable {d : OutputDirectory} {fs fs' : FileSystem}

/-- The documents that are put in place, up to the first that cannot be written. -/
def placed (d : OutputDirectory) : List (Document × Text) → FileSystem → List Document
  | [], _ => []
  | (document, name) :: rest, fs =>
    match document.outcome with
    | .monetized html _ _ =>
      match d.write name html fs with
      | (.ok _, fs) => document :: d.placed rest fs
      | (.error _, _) => []
    | _ => d.placed rest fs

section Writing

variable {document : Document} {name html fp : Text} {tally : Tally} {path : Path}
  {e : WriteError}

lemma writing_of_not_monetized (name : Text) (rest : List (Document × Text)) (fs : FileSystem)
    (h : document.outcome.isMonetized = false) :
    d.writeDocuments ((document, name) :: rest) = d.writeDocuments rest ∧
      d.placed ((document, name) :: rest) fs = d.placed rest fs := by
  rw [writeDocuments, placed]
  cases ho : document.outcome with
  | monetized html tally fp =>
    rw [ho] at h
    cases h
  | alreadyProcessed => exact ⟨rfl, rfl⟩
  | failed cause => exact ⟨rfl, rfl⟩

/-- A document that cannot be written ends the writing. -/
lemma writing_of_error (rest : List (Document × Text))
    (h : document.outcome = .monetized html tally fp)
    (hwrite : d.write name html fs = (.error e, fs')) :
    (d.writeDocuments ((document, name) :: rest)).result fs = (.error e, fs') ∧
      d.placed ((document, name) :: rest) fs = [] := by
  rw [writeDocuments, placed, h]
  dsimp only
  rw [hwrite]
  exact ⟨Work.result_bind_of_error hwrite, rfl⟩

lemma writing_of_ok (rest : List (Document × Text))
    (h : document.outcome = .monetized html tally fp)
    (hwrite : d.write name html fs = (.ok path, fs')) :
    (d.writeDocuments ((document, name) :: rest)).result fs =
        (((d.writeDocuments rest).result fs').1.map (path :: ·),
          ((d.writeDocuments rest).result fs').2) ∧
      d.placed ((document, name) :: rest) fs = document :: d.placed rest fs' := by
  rw [writeDocuments, placed, h]
  dsimp only
  rw [hwrite]
  refine ⟨?_, rfl⟩
  have hwritten : (d.writeDocument name html).result fs = (.ok path, fs') := hwrite
  rw [Work.result_bind_of_ok hwritten, Work.result_bind_of_ok (Work.result_tell _ _ _),
    Work.result_bind]
  generalize (d.writeDocuments rest).result fs' = r
  obtain ⟨x, fs''⟩ := r
  cases x with
  | ok paths => rfl
  | error e => rfl

/-- Documents are passed over, or written one after the other, or one of them cannot be written. -/
theorem writing_induction (d : OutputDirectory) {motive : List (Document × Text) → FileSystem → Prop}
    (nil : ∀ fs, motive [] fs)
    (passed : ∀ document name rest fs, document.outcome.isMonetized = false → motive rest fs →
      motive ((document, name) :: rest) fs)
    (failed : ∀ document name rest fs html tally fp e fs',
      document.outcome = .monetized html tally fp → d.write name html fs = (.error e, fs') →
        motive ((document, name) :: rest) fs)
    (written : ∀ document name rest fs html tally fp path fs',
      document.outcome = .monetized html tally fp → d.write name html fs = (.ok path, fs') →
        motive rest fs' → motive ((document, name) :: rest) fs)
    (pairs : List (Document × Text)) (fs : FileSystem) : motive pairs fs := by
  induction pairs generalizing fs with
  | nil => exact nil fs
  | cons pair rest ih =>
    obtain ⟨document, name⟩ := pair
    cases ho : document.outcome with
    | monetized html tally fp =>
      cases hwrite : d.write name html fs with
      | mk result fs' =>
        cases result with
        | error e => exact failed document name rest fs html tally fp e fs' ho hwrite
        | ok path => exact written document name rest fs html tally fp path fs' ho hwrite (ih fs')
    | alreadyProcessed => exact passed document name rest fs (by rw [ho]; rfl) (ih fs)
    | failed cause => exact passed document name rest fs (by rw [ho]; rfl) (ih fs)

end Writing

/-- Writing documents leaves the directories as they are, and all files without the names of the
monetized ones. -/
theorem writeDocuments_frame (d : OutputDirectory) (pairs : List (Document × Text)) (fs : FileSystem) :
    fs.SameDirectories ((d.writeDocuments pairs).result fs).2 ∧ ∀ other,
      (∀ base, fs.resolve d.path = .ok base → ∀ pair ∈ pairs, pair.1.outcome.isMonetized = true →
        other ≠ base ++ [Path.ofText pair.2]) →
        ((d.writeDocuments pairs).result fs).2.get? other = fs.get? other := by
  induction pairs, fs using writing_induction d with
  | nil fs => exact ⟨.refl fs, fun _ _ => rfl⟩
  | passed document name rest fs hnot ih =>
    rw [(writing_of_not_monetized name rest fs hnot).1]
    refine ⟨ih.1, fun other hother => ih.2 other fun base hbase pair hpair => ?_⟩
    exact hother base hbase pair (List.mem_cons_of_mem _ hpair)
  | failed document name rest fs html tally fp e fs' ho hwrite =>
    have hframe := d.write_frame name html fs
    rw [hwrite] at hframe
    rw [(writing_of_error rest ho hwrite).1]
    exact ⟨hframe.1, fun other hother => hframe.2 other fun base hbase =>
      hother base hbase _ List.mem_cons_self (by rw [ho]; rfl)⟩
  | written document name rest fs html tally fp path fs' ho hwrite ih =>
    have hframe := d.write_frame name html fs
    rw [hwrite] at hframe
    obtain ⟨hsame, hget⟩ := hframe
    rw [(writing_of_ok rest ho hwrite).1]
    refine ⟨hsame.trans ih.1, fun other hother => ?_⟩
    refine (ih.2 other fun base hbase pair hpair => ?_).trans (hget other fun base hbase => ?_)
    · exact hother base (hsame.resolve_eq_ok_iff.1 hbase) pair (List.mem_cons_of_mem _ hpair)
    · exact hother base hbase _ List.mem_cons_self (by rw [ho]; rfl)

/-- What is read from a name stays, if no document has that name. -/
lemma readText_writeDocuments (d : OutputDirectory) {pairs : List (Document × Text)} {name : Text}
    (hname : isPlainName name = true) (h : ∀ pair ∈ pairs, pair.2 ≠ name) (fs : FileSystem)
    (t : Text) :
    ((d.writeDocuments pairs).result fs).2.readText (d.path.join (Path.ofText name)) = .ok t ↔
      fs.readText (d.path.join (Path.ofText name)) = .ok t := by
  obtain ⟨hsame, hget⟩ := writeDocuments_frame d pairs fs
  exact hsame.readText_eq_ok_iff fun place hplace => hget place fun base hbase pair hpair _ =>
    ne_of_resolve_join hname (h pair hpair) hbase hplace

/-- Documents whose names are not that of the ledger's file leave the ledger as it is. -/
theorem load_writeDocuments (d : OutputDirectory) {pairs : List (Document × Text)}
    (h : ∀ pair ∈ pairs, pair.2 ≠ Ledger.fileName) (fs : FileSystem) :
    (Ledger.load d.path ((d.writeDocuments pairs).result fs).2).value =
      (Ledger.load d.path fs).value :=
  Ledger.load_eq_of_readText (readText_writeDocuments d (by decide) h fs)

/-- The documents that are put in place are the first monetized ones, and all of them if nothing went
wrong. -/
theorem placed_prefix (d : OutputDirectory) (pairs : List (Document × Text)) (fs : FileSystem) :
    let monetized := (pairs.map Prod.fst).filter fun document => document.outcome.isMonetized
    d.placed pairs fs <+: monetized ∧
      (((d.writeDocuments pairs).result fs).1.isOk = true → d.placed pairs fs = monetized) := by
  induction pairs, fs using writing_induction d with
  | nil fs => exact ⟨List.prefix_rfl, fun _ => rfl⟩
  | passed document name rest fs hnot ih =>
    obtain ⟨hwrite, hplaced⟩ := writing_of_not_monetized name rest fs hnot
    rw [hwrite, hplaced, List.map_cons, List.filter_cons_of_neg (by rw [hnot]; decide)]
    exact ih
  | failed document name rest fs html tally fp e fs' ho hwrite =>
    obtain ⟨hwritten, hplaced⟩ := writing_of_error rest ho hwrite
    rw [hwritten, hplaced]
    exact ⟨List.nil_prefix, nofun⟩
  | written document name rest fs html tally fp path fs' ho hwrite ih =>
    obtain ⟨hwritten, hplaced⟩ := writing_of_ok rest ho hwrite
    rw [hwritten, hplaced, List.map_cons, List.filter_cons_of_pos (by rw [ho]; rfl)]
    refine ⟨List.cons_prefix_cons.2 ⟨rfl, ih.1⟩, fun hok => congrArg _ (ih.2 ?_)⟩
    cases hrest : ((d.writeDocuments rest).result fs').1 with
    | ok paths => rfl
    | error e =>
      rw [hrest] at hok
      cases hok

/-- The page of a document is read from its name. -/
def Holds (d : OutputDirectory) (fs : FileSystem) (document : Document) (name : Text) : Prop :=
  isPlainName name = true ∧ ∃ html tally fp, document.outcome = .monetized html tally fp ∧
    fs.readText (d.path.join (Path.ofText name)) = .ok html

/-- A document that is put in place is read from its name afterwards, if no two names are the same. -/
theorem holds_of_mem_placed (d : OutputDirectory) (pairs : List (Document × Text)) (fs : FileSystem)
    {document : Document} (hnames : (pairs.map Prod.snd).Nodup)
    (h : document ∈ d.placed pairs fs) :
    ∃ name, (document, name) ∈ pairs ∧
      d.Holds ((d.writeDocuments pairs).result fs).2 document name := by
  induction pairs, fs using writing_induction d with
  | nil fs => exact absurd h List.not_mem_nil
  | passed other name rest fs hnot ih =>
    obtain ⟨hwrite, hplaced⟩ := writing_of_not_monetized name rest fs hnot
    rw [hplaced] at h
    rw [hwrite]
    obtain ⟨name, hmem, hholds⟩ := ih (List.nodup_cons.1 hnames).2 h
    exact ⟨name, List.mem_cons_of_mem _ hmem, hholds⟩
  | failed other name rest fs html tally fp e fs' ho hwrite =>
    rw [(writing_of_error rest ho hwrite).2] at h
    exact absurd h List.not_mem_nil
  | written other name rest fs html tally fp path fs' ho hwrite ih =>
    obtain ⟨hwritten, hplaced⟩ := writing_of_ok rest ho hwrite
    obtain ⟨hname, hnames⟩ := List.nodup_cons.1 hnames
    rw [hplaced] at h
    rw [hwritten]
    rcases List.mem_cons.1 h with rfl | h
    · obtain ⟨hplain, rfl, _⟩ := write_eq_ok hwrite
      have hothers : ∀ pair ∈ rest, pair.2 ≠ name := fun pair hpair heq =>
        hname (List.mem_map.2 ⟨pair, hpair, heq⟩)
      have hread := (readText_writeDocuments d hplain hothers fs' html).2 (readText_of_write hwrite)
      exact ⟨name, List.mem_cons_self, hplain, html, tally, fp, ho, hread⟩
    · obtain ⟨name, hmem, hholds⟩ := ih hnames h
      exact ⟨name, List.mem_cons_of_mem _ hmem, hholds⟩

end AffiliateLinks.OutputDirectory
