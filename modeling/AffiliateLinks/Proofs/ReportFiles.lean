import AffiliateLinks.Proofs.FailingWrites
import AffiliateLinks.Proofs.WrittenDocuments

/-!
# The files of a report

The monetized documents of a report are its pages. Writing the report leaves its pages under their
names, and of several pages with one name the last. If a page cannot be written, only the pages before
it are left.
-/

namespace AffiliateLinks.OutputDirectory

variable {d : OutputDirectory} {fs fs' fs'' : FileSystem} {pairs : List (Document × Text)}
  {pages : List (Text × Text)} {name html : Text}

/-- The name and the content of a monetized document. -/
def page? : Document × Text → Option (Text × Text)
  | (document, name) =>
    match document.outcome with
    | .monetized html _ _ => some (name, html)
    | _ => none

lemma page?_eq_some_iff {pair : Document × Text} : page? pair = some (name, html) ↔
    pair.2 = name ∧ ∃ tally fp, pair.1.outcome = .monetized html tally fp := by
  obtain ⟨document, name'⟩ := pair
  cases ho : document.outcome <;> simp [page?, ho]

lemma page?_eq_none_iff {pair : Document × Text} :
    page? pair = none ↔ pair.1.outcome.isMonetized = false := by
  obtain ⟨document, name⟩ := pair
  cases ho : document.outcome <;> simp [page?, ho, Outcome.isMonetized]

/-- Writes documents, each on a device of its own, up to the first that cannot be written. -/
def writeDocumentsOn (d : OutputDirectory) : (Nat → Device) → List (Document × Text) → FileSystem →
    Except WriteError (List Path) × FileSystem
  | _, [], fs => (.ok [], fs)
  | devices, pair :: rest, fs =>
    match page? pair with
    | none => d.writeDocumentsOn (fun k => devices (k + 1)) rest fs
    | some (name, html) =>
      match d.writeOn (devices 0) name html fs with
      | (.error e, fs) => (.error e, fs)
      | (.ok path, fs) =>
        let (written, fs) := d.writeDocumentsOn (fun k => devices (k + 1)) rest fs
        (written.map (path :: ·), fs)

def writeReportOn (d : OutputDirectory) (devices : Nat → Device) (r : BatchReport)
    (names : List Text) (fs : FileSystem) : Except WriteError (List Path) × FileSystem :=
  if names.length ≠ r.documents.length then
    (.error (.nameCount names.length r.documents.length), fs)
  else d.writeDocumentsOn devices (r.documents.zip names) fs

/-- Without faults the devices do not matter. -/
lemma writeDocuments_eq_writeDocumentsOn (d : OutputDirectory) (pairs : List (Document × Text))
    (fs : FileSystem) :
    (d.writeDocuments pairs).result fs = d.writeDocumentsOn (fun _ => {}) pairs fs := by
  induction pairs, fs using writing_induction d with
  | nil fs => rfl
  | passed document name rest fs hnot ih =>
    rw [(writing_of_not_monetized name rest fs hnot).1, ih, writeDocumentsOn,
      page?_eq_none_iff.2 hnot]
  | failed document name rest fs html tally fp e fs' ho hwrite =>
    have hpage : page? (document, name) = some (name, html) :=
      page?_eq_some_iff.2 ⟨rfl, tally, fp, ho⟩
    rw [(writing_of_error rest ho hwrite).1, writeDocumentsOn, hpage]
    dsimp only
    rw [← write_eq_writeOn, hwrite]
  | written document name rest fs html tally fp path fs' ho hwrite ih =>
    have hpage : page? (document, name) = some (name, html) :=
      page?_eq_some_iff.2 ⟨rfl, tally, fp, ho⟩
    rw [(writing_of_ok rest ho hwrite).1, writeDocumentsOn, hpage]
    dsimp only
    rw [← write_eq_writeOn, hwrite, ih]

lemma writeReport_eq_writeReportOn (d : OutputDirectory) (r : BatchReport) (names : List Text)
    (fs : FileSystem) :
    (d.writeReport r names).result fs = d.writeReportOn (fun _ => {}) r names fs := by
  unfold writeReport writeReportOn
  split_ifs with hcount
  · rfl
  · exact writeDocuments_eq_writeDocumentsOn d _ fs

/-- Pages have been written one after the other, and nothing else has changed: each name has its last
page. -/
structure Leaves (d : OutputDirectory) (pages : List (Text × Text)) (fs fs' : FileSystem) : Prop where
  sameDirectories : fs.SameDirectories fs'
  read : ∀ name html, pages.reverse.lookup name = some html →
    fs'.readText (d.path.join (Path.ofText name)) = .ok html
  frame : ∀ place, (∀ base, fs.resolve d.path = .ok base → ∀ page ∈ pages,
    place ≠ base ++ [Path.ofText page.1]) → fs'.get? place = fs.get? place

namespace Leaves

lemma nil (d : OutputDirectory) (fs : FileSystem) : d.Leaves [] fs fs :=
  ⟨.refl fs, nofun, fun _ _ => rfl⟩

/-- What stands under the names of no pages stays. -/
lemma get?_of_name {base : Place} (h : d.Leaves pages fs fs') (hbase : fs.resolve d.path = .ok base)
    (hname : ∀ page ∈ pages, page.1 ≠ name) :
    fs'.get? (base ++ [Path.ofText name]) = fs.get? (base ++ [Path.ofText name]) := by
  refine h.frame _ fun base' hbase' page hpage heq => hname page hpage ?_
  rw [hbase] at hbase'
  cases hbase'
  exact (Utf8.encode_injective (List.cons.inj (List.append_cancel_left heq)).1).symm

/-- A page that is written stays, if no later page has its name. -/
lemma cons {path : Path} (hwrite : d.write name html fs = (.ok path, fs'))
    (h : d.Leaves pages fs' fs'') : d.Leaves ((name, html) :: pages) fs fs'' := by
  have hframe := d.write_frame name html fs
  rw [hwrite] at hframe
  obtain ⟨hsame, hother⟩ := hframe
  refine ⟨hsame.trans h.sameDirectories, fun n text hlookup => ?_, fun place hplace => ?_⟩
  · rw [List.reverse_cons, List.lookup_append, Option.or_eq_some_iff] at hlookup
    rcases hlookup with hlater | ⟨hnone, hlast⟩
    · exact h.read n text hlater
    · rw [List.lookup_cons] at hlast
      split at hlast
      · next hn =>
        cases hlast
        obtain rfl := eq_of_beq hn
        obtain ⟨hname, rfl, _⟩ := write_eq_ok hwrite
        refine (h.sameDirectories.readText_eq_ok_iff fun place hplace => ?_).2
          (readText_of_write hwrite)
        -- No later page has this name, so none is written to this place.
        refine h.frame place fun base hbase page hpage => ?_
        have hne := List.lookup_eq_none_iff.1 hnone page (List.mem_reverse.2 hpage)
        exact ne_of_resolve_join hname (bne_iff_ne.1 hne).symm hbase hplace
      · cases hlast
  · refine (h.frame place fun base hbase page hpage => ?_).trans (hother place fun base hbase => ?_)
    · exact hplace base (hsame.resolve_eq_ok_iff.1 hbase) page (List.mem_cons_of_mem _ hpage)
    · exact hplace base hbase _ List.mem_cons_self

end Leaves

section Steps

variable {devices : Nat → Device} {pair : Document × Text} {path : Path} {e : WriteError}

lemma writeDocumentsOn_of_no_page (h : page? pair = none) :
    d.writeDocumentsOn devices (pair :: pairs) fs =
      d.writeDocumentsOn (fun k => devices (k + 1)) pairs fs := by
  rw [writeDocumentsOn, h]

lemma writeDocumentsOn_of_error (h : page? pair = some (name, html))
    (hwrite : d.writeOn (devices 0) name html fs = (.error e, fs')) :
    d.writeDocumentsOn devices (pair :: pairs) fs = (.error e, fs') := by
  simp only [writeDocumentsOn, h, hwrite]

lemma writeDocumentsOn_of_ok (h : page? pair = some (name, html))
    (hwrite : d.writeOn (devices 0) name html fs = (.ok path, fs')) :
    d.writeDocumentsOn devices (pair :: pairs) fs =
      let written := d.writeDocumentsOn (fun k => devices (k + 1)) pairs fs'
      (written.1.map (path :: ·), written.2) := by
  simp only [writeDocumentsOn, h, hwrite]

end Steps

/-- Documents that were written have left all pages. If one could not be written, the pages before it are
left, and it cannot be written after them. -/
lemma writeDocumentsOn_leaves (d : OutputDirectory) (pairs : List (Document × Text))
    (devices : Nat → Device) (fs : FileSystem) :
    let run := d.writeDocumentsOn devices pairs fs
    (∀ paths, run.1 = .ok paths →
      paths = (pairs.filterMap page?).map (fun page => d.path.join (Path.ofText page.1)) ∧
        d.Leaves (pairs.filterMap page?) fs run.2) ∧
      ∀ e, run.1 = .error e → ∃ k pair name html, pairs[k]? = some pair ∧
        page? pair = some (name, html) ∧ d.Leaves ((pairs.take k).filterMap page?) fs run.2 ∧
        d.writeOn (devices k) name html run.2 = (.error e, run.2) := by
  induction pairs generalizing devices fs with
  | nil =>
    refine ⟨fun paths h => ?_, fun e h => ?_⟩
    · cases h
      exact ⟨rfl, .nil d fs⟩
    · cases h
  | cons pair rest ih =>
    cases hpage : page? pair with
    | none =>
      obtain ⟨hok, herror⟩ := ih (fun k => devices (k + 1)) fs
      rw [writeDocumentsOn_of_no_page hpage, List.filterMap_cons_none hpage]
      refine ⟨hok, fun e he => ?_⟩
      obtain ⟨k, other, name, html, hother, hrest⟩ := herror e he
      refine ⟨k + 1, other, name, html, hother, ?_⟩
      rw [List.take_succ_cons, List.filterMap_cons_none hpage]
      exact hrest
    | some page =>
      obtain ⟨name, html⟩ := page
      cases hwrite : d.writeOn (devices 0) name html fs with
      | mk result fs' =>
        cases result with
        | error e =>
          have hsame := eq_of_writeOn_eq_error hwrite
          subst hsame
          rw [writeDocumentsOn_of_error hpage hwrite]
          refine ⟨nofun, fun e' he => ?_⟩
          cases he
          exact ⟨0, pair, name, html, rfl, hpage, .nil d fs', hwrite⟩
        | ok path =>
          have hwritten := write_of_writeOn hwrite
          obtain ⟨-, rfl, -⟩ := write_eq_ok hwritten
          obtain ⟨hok, herror⟩ := ih (fun k => devices (k + 1)) fs'
          rw [writeDocumentsOn_of_ok hpage hwrite, List.filterMap_cons_some hpage]
          dsimp only
          generalize d.writeDocumentsOn (fun k => devices (k + 1)) rest fs' = run at hok herror
          obtain ⟨result, fs''⟩ := run
          cases result with
          -- Both ways the pages behind come to lie over the one that has just been written.
          | ok paths =>
            obtain ⟨rfl, hleaves⟩ := hok paths rfl
            refine ⟨fun paths' h => ?_, nofun⟩
            cases h
            exact ⟨rfl, .cons hwritten hleaves⟩
          | error e =>
            refine ⟨nofun, fun e' h => ?_⟩
            cases h
            obtain ⟨k, other, name', html', hother, hpage', hleaves, hrest⟩ := herror e rfl
            refine ⟨k + 1, other, name', html', hother, hpage', ?_, hrest⟩
            rw [List.take_succ_cons, List.filterMap_cons_some hpage]
            exact .cons hwritten hleaves

/-- A report that is written leaves the last page of each name under that name, and nothing else has
changed. If it cannot be written, this is on account of one page, and the pages before it are left. With
a wrong number of names nothing is changed. -/
theorem writeReport_leaves (d : OutputDirectory) (r : BatchReport) (names : List Text)
    (fs : FileSystem) :
    (d.writeReport r names).result fs = d.writeReportOn (fun _ => {}) r names fs ∧
      ∀ devices : Nat → Device,
        let run := d.writeReportOn devices r names fs
        let pages := (r.documents.zip names).filterMap page?
        (names.length ≠ r.documents.length →
          run = (.error (.nameCount names.length r.documents.length), fs)) ∧
        (names.length = r.documents.length →
          (∀ paths, run.1 = .ok paths →
            paths = pages.map (fun page => d.path.join (Path.ofText page.1)) ∧
              d.Leaves pages fs run.2 ∧
              ∀ name base, (∀ page ∈ pages, page.1 ≠ name) → fs.resolve d.path = .ok base →
                run.2.get? (base ++ [Path.ofText name]) = fs.get? (base ++ [Path.ofText name])) ∧
          ∀ e, run.1 = .error e → ∃ k document name html tally fp,
            r.documents[k]? = some document ∧ names[k]? = some name ∧
              document.outcome = .monetized html tally fp ∧
              d.Leaves (((r.documents.zip names).take k).filterMap page?) fs run.2 ∧
              d.writeOn (devices k) name html run.2 = (.error e, run.2)) := by
  refine ⟨writeReport_eq_writeReportOn d r names fs, fun devices => ?_⟩
  intro run pages
  refine ⟨fun hcount => if_pos hcount, fun hcount => ?_⟩
  have hrun : run = d.writeDocumentsOn devices (r.documents.zip names) fs :=
    if_neg (not_not_intro hcount)
  obtain ⟨hok, herror⟩ := writeDocumentsOn_leaves d (r.documents.zip names) devices fs
  rw [hrun]
  refine ⟨fun paths hpaths => ?_, fun e he => ?_⟩
  · obtain ⟨hpaths, hleaves⟩ := hok paths hpaths
    exact ⟨hpaths, hleaves, fun name base hname hbase => hleaves.get?_of_name hbase hname⟩
  · obtain ⟨k, ⟨document, name'⟩, name, html, hpair, hpage, hleaves, hbreaks⟩ := herror e he
    obtain ⟨rfl, tally, fp, ho⟩ := page?_eq_some_iff.1 hpage
    obtain ⟨hdocument, hname⟩ := List.getElem?_zip_eq_some.1 hpair
    exact ⟨k, document, name', html, tally, fp, hdocument, hname, ho, hleaves, hbreaks⟩

/-- Of two pages with one name the second is left, and a document that was processed before leaves its
file alone, also when the second page cannot be written. -/
theorem writeReport_leaves_same_name :
    let page (html : String) : Outcome := .monetized html.toList ⟨1, 0, 0, 0⟩ []
    let r : BatchReport := ⟨[⟨"in/a.html".toList, page "one"⟩, ⟨"in/b.html".toList, .alreadyProcessed⟩,
      ⟨"old/a.html".toList, page "two"⟩]⟩
    let names := ["a.html", "b.html", "a.html"].map String.toList
    let out := Path.ofText "out".toList
    let a := Path.ofText "out/a.html".toList
    let b := Path.ofText "b.html".toList
    let fs : FileSystem := ⟨[([], .directory true), ([out], .directory true), ([out, b], .file [0x62])], []⟩
    let d : OutputDirectory := ⟨out⟩
    let written := d.writeReportOn (fun _ => {}) r names fs
    let broken := d.writeReportOn (fun k => { fault := if k = 2 then some (.syncing .notFound) else none })
      r names fs
    written.1 = .ok [a, a] ∧ written.2.readText a = .ok "two".toList ∧
      written.2.get? [out, b] = some (.file [0x62]) ∧
      broken.1 = .error (.file .notFound) ∧ broken.2.get? [out, b] = some (.file [0x62]) ∧
      d.writeReportOn (fun _ => {}) r [] fs = (.error (.nameCount 0 3), fs) := by
  intro page r names out a b fs d written broken
  have hpages : (r.documents.zip names).filterMap page? =
      [("a.html".toList, "one".toList), ("a.html".toList, "two".toList)] := rfl
  have hother : ∀ page ∈ (r.documents.zip names).filterMap page?, page.1 ≠ "b.html".toList := by
    rw [hpages]
    decide
  have hout : fs.resolve d.path = .ok [out] := rfl
  have hruns := (writeReport_leaves d r names fs).2
  have hwritten : written.1 = .ok [a, a] := by decide +kernel
  have hbroken : broken.1 = .error (.file .notFound) := by decide +kernel
  obtain ⟨_, hleaves, hkept⟩ := ((hruns fun _ => {}).2 rfl).1 _ hwritten
  obtain ⟨k, _, _, _, _, _, _, _, _, hbefore, _⟩ := ((hruns _).2 rfl).2 _ hbroken
  refine ⟨hwritten, hleaves.read "a.html".toList _ rfl, hkept _ _ hother hout, hbroken, ?_, ?_⟩
  -- However many pages were written, they are some of all pages.
  · refine hbefore.get?_of_name hout fun page hpage => hother page ?_
    exact ((List.take_sublist k _).filterMap page?).subset hpage
  · exact ((writeReport_leaves d r [] fs).2 fun _ => {}).1 (by decide)

end AffiliateLinks.OutputDirectory
