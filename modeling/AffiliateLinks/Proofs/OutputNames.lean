import AffiliateLinks.Proofs.WrittenDocuments
import Mathlib.Data.List.Nodup

/-!
# Names of outputs

A document is written under the file name of its input as a reader sees it. Names are judged twice:
before anything is done, where every input needs a name of its own, and again when the document is
written, where the name must be that of a file in the output directory. The two differ in a backslash,
which may stand in the name of a file and is refused when the file is written.
-/

namespace AffiliateLinks

namespace Path

variable {p : Path} {name c : Bytes} {t : Text}

/-- The file name of a path as a reader sees it. -/
def shownName? (p : Path) : Option Text := p.fileName?.map Utf8.decodeLossy

lemma outputName_eq_ok_iff : p.outputName = .ok t ↔ p.shownName? = some t := by
  unfold outputName shownName?
  cases p.fileName? with
  | none => simp
  | some name => simp

lemma slash_not_mem_of_mem_split (h : c ∈ split p) : slash ∉ c := by
  induction p using split_induction with
  | last a ha =>
    rw [List.mem_singleton.1 h]
    exact ha
  | more a p ha ih =>
    obtain rfl | h := List.mem_cons.1 h
    · exact ha
    · exact ih h

lemma mem_pieces_of_mem_components (h : c ∈ p.components) : c ∈ p.pieces := by
  unfold components at h
  split at h
  · next b bs _ hpieces =>
    rw [hpieces]
    obtain rfl | h := List.mem_cons.1 h
    · exact List.mem_cons_self
    · exact List.mem_cons_of_mem _ (List.mem_filter.1 h).1
  · exact (List.mem_filter.1 h).1

lemma isName_of_fileName? (h : p.fileName? = some name) :
    name ≠ [] ∧ slash ∉ name ∧ name ≠ here ∧ name ≠ above := by
  obtain ⟨hlast, hdots⟩ := Option.filter_eq_some_iff.1 h
  have hpiece := mem_pieces_of_mem_components (List.mem_of_getLast? hlast)
  obtain ⟨hsplit, hne⟩ := List.mem_filter.1 hpiece
  exact ⟨by simpa using hne, slash_not_mem_of_mem_split hsplit, by simpa using hdots⟩

/-- Bytes that are a file name are their own file name. -/
lemma fileName?_eq_self_iff :
    fileName? name = some name ↔ name ≠ [] ∧ slash ∉ name ∧ name ≠ here ∧ name ≠ above := by
  constructor
  · exact isName_of_fileName?
  · rintro ⟨hne, hslash, hhere, habove⟩
    have hcomponents : components name = [name] := by
      unfold components
      rw [pieces_name hne hslash]
      cases isRooted name <;> simp [hhere]
    simp [fileName?, hcomponents, hhere, habove]

lemma fileName?_ofText_eq_self_iff : fileName? (ofText t) = some (ofText t) ↔
    t ≠ [] ∧ '/' ∉ t ∧ t ≠ ['.'] ∧ t ≠ ['.', '.'] := by
  have hencode {s : Text} : ofText t = ofText s ↔ t = s := ⟨Utf8.encode_injective, fun h => h ▸ rfl⟩
  have hslash : slash ∈ ofText t ↔ '/' ∈ t := by
    constructor
    · exact fun h => Utf8.mem_of_mem_encode h (by decide)
    · exact fun h => List.mem_flatMap.2 ⟨_, h, by decide⟩
  rw [fileName?_eq_self_iff, hslash]
  exact and_congr (not_congr (hencode (s := [])))
    (and_congr_right' (and_congr (not_congr (hencode (s := ['.'])))
      (not_congr (hencode (s := ['.', '.'])))))

/-- A file name as a reader sees it can be the name of a file again. -/
lemma fileName?_of_shownName? (h : p.shownName? = some t) :
    fileName? (ofText t) = some (ofText t) := by
  obtain ⟨name, hname, rfl⟩ := Option.map_eq_some_iff.1 h
  obtain ⟨hne, hslash, hhere, habove⟩ := isName_of_fileName? hname
  rw [fileName?_ofText_eq_self_iff, Ne, Ne, Ne, Utf8.decodeLossy_eq_nil_iff, decodeLossy_eq_here_iff,
    decodeLossy_eq_above_iff]
  exact ⟨hne, slash_not_mem_decodeLossy hslash, hhere, habove⟩

end Path

section outputNames

variable {inputs : List Path} {names taken : List Text}

lemma map_outputName_eq_iff :
    inputs.map Path.outputName = names.map .ok ↔ inputs.map Path.shownName? = names.map some := by
  induction inputs generalizing names with
  | nil => cases names <;> simp
  | cons p ps ih =>
    cases names with
    | nil => simp
    | cons name names => simp [Path.outputName_eq_ok_iff, ih]

lemma outputNamesAfter_eq_ok_iff : outputNamesAfter taken inputs = .ok names ↔
    inputs.map Path.shownName? = names.map some ∧ names.Nodup ∧ ∀ name ∈ names, name ∉ taken := by
  rw [← map_outputName_eq_iff]
  refine ⟨outputNamesAfter_eq_ok, ?_⟩
  induction inputs generalizing taken names with
  | nil =>
    rintro ⟨hmap, -, -⟩
    rw [List.map_nil, eq_comm, List.map_eq_nil_iff] at hmap
    rw [hmap]
    rfl
  | cons p ps ih =>
    rintro ⟨hmap, hnodup, hnew⟩
    cases names with
    | nil => cases hmap
    | cons name names =>
      rw [List.map_cons, List.map_cons, List.cons.injEq] at hmap
      obtain ⟨hname, hrest⟩ := hmap
      obtain ⟨hfirst, hnodup⟩ := List.nodup_cons.1 hnodup
      obtain ⟨htaken, hnew⟩ := List.forall_mem_cons.1 hnew
      have hafter : outputNamesAfter (name :: taken) ps = .ok names := by
        refine ih ⟨hrest, hnodup, fun n hn => ?_⟩
        rw [List.mem_cons, not_or]
        exact ⟨fun heq => hfirst (heq ▸ hn), hnew n hn⟩
      rw [outputNamesAfter, hname]
      refine bind_eq_ok_iff.2 ⟨name, rfl, ?_⟩
      rw [if_neg (by simpa using htaken), hafter]
      rfl

/-- Names are given to inputs if all of them have file names that look different. -/
theorem outputNames_eq_ok_iff : outputNames inputs = .ok names ↔
    inputs.map Path.shownName? = names.map some ∧ names.Nodup := by
  rw [outputNames, outputNamesAfter_eq_ok_iff]
  simp

lemma map_shownName?_eq (h : ∀ p ∈ inputs, p.shownName? ≠ none) :
    inputs.map Path.shownName? = (inputs.filterMap Path.shownName?).map some := by
  induction inputs with
  | nil => rfl
  | cons p ps ih =>
    obtain ⟨hp, hps⟩ := List.forall_mem_cons.1 h
    obtain ⟨name, hname⟩ := Option.ne_none_iff_exists'.1 hp
    rw [List.map_cons, List.filterMap_cons_some hname, List.map_cons, hname, ih hps]

lemma exists_outputNames_iff : (∃ names, outputNames inputs = .ok names) ↔
    (∀ p ∈ inputs, p.shownName? ≠ none) ∧
      ∀ p q, [p, q].Sublist inputs → p.shownName? ≠ q.shownName? := by
  have hdistinct : (inputs.map Path.shownName?).Nodup ↔
      ∀ p q, [p, q].Sublist inputs → p.shownName? ≠ q.shownName? := by
    rw [List.nodup_iff_pairwise_ne, List.pairwise_map, List.pairwise_iff_forall_sublist]
  simp only [outputNames_eq_ok_iff, ← hdistinct]
  constructor
  · rintro ⟨names, hmap, hnodup⟩
    rw [hmap]
    refine ⟨fun p hp hnone => ?_, hnodup.map fun _ _ => Option.some.inj⟩
    have hsome : p.shownName? ∈ names.map some := hmap ▸ List.mem_map_of_mem hp
    simp [hnone] at hsome
  · rintro ⟨hall, hnodup⟩
    have hmap := map_shownName?_eq hall
    exact ⟨inputs.filterMap Path.shownName?, hmap, List.Nodup.of_map some (hmap ▸ hnodup)⟩

lemma exists_error_iff : (∃ e, outputNames inputs = .error e) ↔
    (∃ p ∈ inputs, p.fileName? = none) ∨
      ∃ p q name, [p, q].Sublist inputs ∧ p.shownName? = some name ∧ q.shownName? = some name := by
  have hnone (p : Path) : p.shownName? = none ↔ p.fileName? = none := Option.map_eq_none_iff
  have herror : (∃ e, outputNames inputs = .error e) ↔ ¬∃ names, outputNames inputs = .ok names := by
    cases outputNames inputs <;> simp
  rw [herror, exists_outputNames_iff]
  simp only [← hnone]
  constructor
  · intro h
    by_contra hnot
    rw [not_or] at hnot
    obtain ⟨hall, hdistinct⟩ := hnot
    refine h ⟨fun p hp hp' => hall ⟨p, hp, hp'⟩, fun p q hpq heq => ?_⟩
    cases hq : q.shownName? with
    | none => exact hall ⟨q, hpq.subset (by simp), hq⟩
    | some name => exact hdistinct ⟨p, q, name, hpq, heq.trans hq, hq⟩
  · rintro (⟨p, hp, hp'⟩ | ⟨p, q, name, hpq, hp, hq⟩) ⟨hall, hdistinct⟩
    · exact hall p hp hp'
    · exact hdistinct p q hpq (hp.trans hq.symm)

end outputNames

namespace OutputDirectory

variable {d : OutputDirectory} {fs fs' : FileSystem} {name content : Text}

/-- Plain names are the names of files that hold no backslash. -/
lemma isPlainName_iff : isPlainName name = true ↔
    Path.fileName? (Path.ofText name) = some (Path.ofText name) ∧ '\\' ∉ name := by
  constructor
  · intro h
    simp [isPlainName] at h
    rw [Path.fileName?_ofText_eq_self_iff]
    tauto
  · rintro ⟨hfile, hback⟩
    obtain ⟨hne, hslash, hhere, habove⟩ := Path.fileName?_ofText_eq_self_iff.1 hfile
    simp [isPlainName, hne, hslash, hhere, habove, hback, hfile]

lemma write_eq_outsideName_iff {refused : Text} :
    (d.write name content fs).1 = .error (.outsideName refused) ↔
      isPlainName name = false ∧ refused = name := by
  unfold write
  cases hplain : isPlainName name with
  | false => simp [eq_comm]
  | true =>
    simp only [Bool.not_true, Bool.false_eq_true, if_false, reduceCtorEq, false_and, iff_false]
    split
    · simp
    · split <;> simp

/-- Writing stops on account of a name only at a monetized document whose name is not plain, and no
such document can be written. -/
theorem writeDocuments_refused (d : OutputDirectory) (pairs : List (Document × Text))
    (fs : FileSystem) :
    let result := ((d.writeDocuments pairs).result fs).1
    let refused := ∃ pair ∈ pairs, pair.1.outcome.isMonetized = true ∧ isPlainName pair.2 = false
    ((∃ name, result = .error (.outsideName name)) → refused) ∧ (refused → result.isOk = false) := by
  induction pairs, fs using writing_induction d with
  | nil fs =>
    constructor
    · rintro ⟨name, h⟩
      cases h
    · rintro ⟨pair, hpair, -⟩
      cases hpair
  | passed document name rest fs hnot ih =>
    rw [(writing_of_not_monetized name rest fs hnot).1]
    simpa [hnot] using ih
  | failed document name rest fs html tally fp e fs' ho hwrite =>
    rw [(writing_of_error rest ho hwrite).1]
    refine ⟨?_, fun _ => rfl⟩
    rintro ⟨refused, h⟩
    dsimp only at h
    cases h
    have hrefused := write_eq_outsideName_iff.1 (congrArg Prod.fst hwrite)
    exact ⟨_, List.mem_cons_self, by rw [ho]; rfl, hrefused.1⟩
  | written document name rest fs html tally fp path fs' ho hwrite ih =>
    rw [(writing_of_ok rest ho hwrite).1]
    have hplain := (write_eq_ok hwrite).1
    have hkept (r : Except WriteError (List Path)) : (r.map (path :: ·)).isOk = r.isOk ∧
        ∀ e, r.map (path :: ·) = .error e ↔ r = .error e := by
      cases r with
      | ok paths => exact ⟨rfl, by simp [Except.map]⟩
      | error e => exact ⟨rfl, by simp [Except.map]⟩
    simpa [hplain, hkept] using ih

lemma writeReport_refused (d : OutputDirectory) (report : BatchReport) (names : List Text)
    (fs : FileSystem) :
    let result := ((d.writeReport report names).result fs).1
    let refused := ∃ pair ∈ report.documents.zip names,
      pair.1.outcome.isMonetized = true ∧ isPlainName pair.2 = false
    ((∃ name, result = .error (.outsideName name)) → refused) ∧ (refused → result.isOk = false) := by
  unfold writeReport
  by_cases hlength : names.length = report.documents.length
  · rw [if_neg (not_not_intro hlength)]
    exact writeDocuments_refused d _ fs
  · rw [if_pos hlength]
    refine ⟨?_, fun _ => rfl⟩
    rintro ⟨name, h⟩
    cases h

end OutputDirectory

open OutputDirectory (isPlainName)

/-- The names that are given to inputs are the shown names of their files, in order and without
repetition, and they are given unless an input has no file name or two are shown alike. A name that
was given is refused later exactly if it holds a backslash: a report that has monetized documents with
such names cannot be written, and no other one is refused on account of a name. -/
theorem outputNames_refused_iff (inputs : List Path) :
    (∀ names, outputNames inputs = .ok names →
      inputs.map Path.shownName? = names.map some ∧ names.Nodup ∧
      (∀ name ∈ names, isPlainName name = false ↔ '\\' ∈ name) ∧
      ∀ (d : OutputDirectory) (report : BatchReport) (fs : FileSystem),
        let result := ((d.writeReport report names).result fs).1
        let refused := ∃ pair ∈ report.documents.zip names,
          pair.1.outcome.isMonetized = true ∧ '\\' ∈ pair.2
        ((∃ name, result = .error (.outsideName name)) → refused) ∧
          (refused → result.isOk = false)) ∧
    ((∃ e, outputNames inputs = .error e) ↔
      (∃ p ∈ inputs, p.fileName? = none) ∨
        ∃ p q name, [p, q].Sublist inputs ∧ p.shownName? = some name ∧ q.shownName? = some name) := by
  refine ⟨fun names hnames => ?_, exists_error_iff⟩
  obtain ⟨hmap, hnodup⟩ := outputNames_eq_ok_iff.1 hnames
  have hplain : ∀ name ∈ names, isPlainName name = false ↔ '\\' ∈ name := by
    intro name hname
    have hshown : some name ∈ inputs.map Path.shownName? := hmap ▸ List.mem_map_of_mem hname
    obtain ⟨p, -, hp⟩ := List.mem_map.1 hshown
    rw [← Bool.not_eq_true, OutputDirectory.isPlainName_iff]
    simp [Path.fileName?_of_shownName? hp]
  refine ⟨hmap, hnodup, hplain, fun d report fs => ?_⟩
  have hrefused : (∃ pair ∈ report.documents.zip names,
        pair.1.outcome.isMonetized = true ∧ isPlainName pair.2 = false) ↔
      ∃ pair ∈ report.documents.zip names, pair.1.outcome.isMonetized = true ∧ '\\' ∈ pair.2 := by
    refine exists_congr fun pair => and_congr_right fun hpair => and_congr_right' ?_
    exact hplain _ (List.of_mem_zip hpair).2
  rw [← hrefused]
  exact d.writeReport_refused report names fs

/-- Names in other scripts and names that are no UTF-8 are given and never refused. Two of these that
are shown alike are not given. -/
theorem outputNames_refused_iff_shown :
    let inputs : List Path := [Path.ofText "in/a.html".toList, Path.ofText "in/ä b/.".toList,
      [0x78, 0x2F, 0xFF]]
    let names := ["a.html", "ä b", "\uFFFD"].map String.toList
    outputNames inputs = .ok names ∧ (∀ name ∈ names, isPlainName name = true) ∧
      (∀ (d : OutputDirectory) (report : BatchReport) (fs : FileSystem) (name : Text),
        ((d.writeReport report names).result fs).1 ≠ .error (.outsideName name)) ∧
      ∃ e, outputNames [[0x78, 0x2F, 0xFF], [0x79, 0x2F, 0xFE]] = .error e := by
  intro inputs names
  have hnames : outputNames inputs = .ok names := by decide +kernel
  have hback : ∀ name ∈ names, '\\' ∉ name := by decide +kernel
  obtain ⟨-, -, hplain, hreport⟩ := (outputNames_refused_iff inputs).1 names hnames
  refine ⟨hnames, fun name hname => ?_, fun d report fs name h => ?_, ?_⟩
  · rw [← Bool.not_eq_false, hplain name hname]
    exact hback name hname
  · obtain ⟨pair, hpair, -, hmem⟩ := (hreport d report fs).1 ⟨name, h⟩
    exact hback _ (List.of_mem_zip hpair).2 hmem
  · rw [(outputNames_refused_iff _).2]
    exact .inr ⟨_, _, "\uFFFD".toList, List.Sublist.refl _, by decide +kernel, by decide +kernel⟩

/-- The second of two documents is refused on account of its name after the first one was written. -/
theorem exists_given_name_refused :
    let made := "<a href=\"https://amzn.to/x?tag=site-20\" rel=\"nofollow sponsored\">a</a>".toList
    let document (source : String) : Document :=
      ⟨source.toList, .monetized made ⟨1, 0, 0, 0⟩ (fingerprint made)⟩
    ∃ (inputs : List Path) (names : List Text) (d : OutputDirectory) (fs : FileSystem),
      let written := (d.writeReport ⟨[document "in/a.html", document "in/b\\c.html"]⟩ names).result fs
      inputs.map Path.display = ["in/a.html", "in/b\\c.html"].map String.toList ∧
        outputNames inputs = .ok names ∧ names = ["a.html", "b\\c.html"].map String.toList ∧
        isPlainName "b\\c.html".toList = false ∧
        written.1 = .error (.outsideName "b\\c.html".toList) ∧
        written.2.readText (d.path.join (Path.ofText "a.html".toList)) = .ok made := by
  intro made document
  let inputs := ["in/a.html", "in/b\\c.html"].map fun path => Path.ofText path.toList
  let fs : FileSystem :=
    ⟨[([], .directory true), ([Path.ofText "out".toList], .directory true)], []⟩
  exact ⟨inputs, _, ⟨Path.ofText "out".toList⟩, fs, by decide +kernel, by decide +kernel, rfl,
    by decide +kernel, by decide +kernel, by decide +kernel⟩

end AffiliateLinks
