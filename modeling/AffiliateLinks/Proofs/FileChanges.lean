import AffiliateLinks.Output.Directory
import AffiliateLinks.Proofs.PathNames
import AffiliateLinks.Proofs.Numerals
import Mathlib.Data.List.Perm.Subperm

/-!
# What writing a document changes

A document that is written is at its name in the output directory, and everything else is as it was;
if it is not written, everything is as it was. Where a path leads depends on the directories only, so
it is not changed by that either.
-/

namespace AffiliateLinks

namespace FileSystem

variable {fs fs' : FileSystem} {place dir start : Place} {e : Entry} {p : Path} {c : Bytes}
  {cs : List Bytes} {content : Bytes}

lemma walk_cons_eq_ok_iff : fs.walk dir (c :: cs) = .ok place ↔
    (∃ w, fs.get? dir = some (.directory w)) ∧ c.length ≤ nameLimit ∧
      fs.walk (step dir c) cs = .ok place := by
  rw [walk]
  cases fs.get? dir with
  | none => simp
  | some e =>
    cases e with
    | file content => simp
    | directory w =>
      by_cases hc : nameLimit < c.length
      · simp [hc, Nat.not_le.2 hc]
      · simp [hc, Nat.not_lt.1 hc]

lemma walk_append_eq_ok_iff : fs.walk dir (cs ++ [c]) = .ok place ↔
    ∃ d, fs.walk dir cs = .ok d ∧ (∃ w, fs.get? d = some (.directory w)) ∧
      c.length ≤ nameLimit ∧ place = step d c := by
  induction cs generalizing dir with
  | nil =>
    rw [List.nil_append, walk_cons_eq_ok_iff]
    constructor
    · rintro ⟨hdir, hc, h⟩
      cases h
      exact ⟨dir, rfl, hdir, hc, rfl⟩
    · rintro ⟨d, hd, hdir, hc, rfl⟩
      cases hd
      exact ⟨hdir, hc, rfl⟩
  | cons b cs ih =>
    rw [List.cons_append, walk_cons_eq_ok_iff, ih]
    constructor
    · rintro ⟨hdir, hb, d, hd, h⟩
      exact ⟨d, walk_cons_eq_ok_iff.2 ⟨hdir, hb, hd⟩, h⟩
    · rintro ⟨d, hd, h⟩
      obtain ⟨hdir, hb, hd⟩ := walk_cons_eq_ok_iff.1 hd
      exact ⟨hdir, hb, d, hd, h⟩

lemma resolve_eq_ok_iff : fs.resolve p = .ok place ↔
    (p.contains 0 = false ∧ p.isEmpty = false ∧ p.length ≤ pathLimit) ∧
      fs.walk (if p.isRooted then [] else fs.workingDirectory) p.pieces = .ok place := by
  unfold resolve
  cases p.contains 0 with
  | true => simp
  | false =>
    cases p.isEmpty with
    | true => simp
    | false =>
      by_cases hp : pathLimit < p.length
      · simp [hp, Nat.not_le.2 hp]
      · simp [hp, Nat.not_lt.1 hp]

lemma lookup_eq_ok_iff : fs.lookup p = .ok (place, e) ↔
    fs.resolve p = .ok place ∧ fs.get? place = some e ∧
      ((∃ content, e = .file content) → asksForDirectory p = false) := by
  refine bind_eq_ok_iff.trans ⟨?_, ?_⟩
  · rintro ⟨d, hd, h⟩
    split at h
    · cases h
    · next content hget =>
      split at h
      · cases h
      · next hasks =>
        cases h
        exact ⟨hd, hget, fun _ => Bool.eq_false_iff.2 hasks⟩
    · next f hnot hget =>
      cases h
      exact ⟨hd, hget, fun ⟨content, hcontent⟩ => absurd hcontent (hnot content)⟩
  · rintro ⟨hplace, hget, hasks⟩
    refine ⟨place, hplace, ?_⟩
    rw [hget]
    cases e with
    | file content => exact if_neg (Bool.eq_false_iff.1 (hasks ⟨content, rfl⟩))
    | directory w => rfl

lemma writable_eq_ok_iff : fs.writable p = .ok place ↔
    fs.resolve p = .ok place ∧ (∀ w, fs.get? place ≠ some (.directory w)) ∧
      asksForDirectory p = false := by
  refine bind_eq_ok_iff.trans ⟨?_, ?_⟩
  · rintro ⟨d, hd, h⟩
    split at h
    · cases h
    · next hnot =>
      split at h
      · cases h
      · next hasks =>
        cases h
        exact ⟨hd, hnot, Bool.eq_false_iff.2 hasks⟩
  · rintro ⟨hplace, hget, hasks⟩
    refine ⟨place, hplace, ?_⟩
    split
    · next w hdir => exact absurd hdir (hget w)
    · exact if_neg (Bool.eq_false_iff.1 hasks)

lemma readText_eq_ok_iff {t : Text} : fs.readText p = .ok t ↔
    ∃ place content, fs.lookup p = .ok (place, .file content) ∧ Utf8.decode? content = some t := by
  refine bind_eq_ok_iff.trans ⟨?_, ?_⟩
  · rintro ⟨content, hread, h⟩
    obtain ⟨⟨place, e⟩, hlookup, hfile⟩ := bind_eq_ok_iff.1 hread
    cases e with
    | directory w => cases hfile
    | file bytes =>
      cases hfile
      split at h
      · next hdecode =>
        cases h
        exact ⟨place, content, hlookup, hdecode⟩
      · cases h
  · rintro ⟨place, content, hlookup, hdecode⟩
    have hread : fs.read p = .ok content := bind_eq_ok_iff.2 ⟨_, hlookup, rfl⟩
    refine ⟨content, hread, ?_⟩
    rw [hdecode]

/-- A name in a directory leads to a place of its own right below the directory. -/
lemma resolve_join {base : Place} {name : Bytes} (hbase : fs.resolve p = .ok base) (hname : name ≠ [])
    (hslash : Path.slash ∉ name) (hhere : name ≠ Path.here) (habove : name ≠ Path.above)
    (h : fs.resolve (p.join name) = .ok place) : place = base ++ [name] := by
  obtain ⟨⟨_, hempty, _⟩, hwalk⟩ := resolve_eq_ok_iff.1 hbase
  have hp : p ≠ [] := List.isEmpty_eq_false_iff.1 hempty
  obtain ⟨_, h⟩ := resolve_eq_ok_iff.1 h
  rw [Path.pieces_join hp hname hslash, Path.isRooted_join hp, walk_append_eq_ok_iff] at h
  obtain ⟨d, hd, _, _, rfl⟩ := h
  rw [hwalk] at hd
  cases hd
  rw [step, if_neg hhere, if_neg habove]

/-- Two file systems have the same directories. -/
structure SameDirectories (fs fs' : FileSystem) : Prop where
  workingDirectory : fs'.workingDirectory = fs.workingDirectory
  directory : ∀ place w, fs'.get? place = some (.directory w) ↔ fs.get? place = some (.directory w)

namespace SameDirectories

lemma refl (fs : FileSystem) : SameDirectories fs fs := ⟨rfl, fun _ _ => Iff.rfl⟩

lemma trans {fs'' : FileSystem} (h : SameDirectories fs fs') (h' : SameDirectories fs' fs'') :
    SameDirectories fs fs'' :=
  ⟨h'.workingDirectory.trans h.workingDirectory,
    fun place w => (h'.directory place w).trans (h.directory place w)⟩

lemma walk_eq_ok_iff (h : SameDirectories fs fs') :
    fs'.walk dir cs = .ok place ↔ fs.walk dir cs = .ok place := by
  induction cs generalizing dir with
  | nil => exact Iff.rfl
  | cons c cs ih =>
    simp only [walk_cons_eq_ok_iff, h.directory, ih]

lemma resolve_eq_ok_iff (h : SameDirectories fs fs') :
    fs'.resolve p = .ok place ↔ fs.resolve p = .ok place := by
  rw [FileSystem.resolve_eq_ok_iff, FileSystem.resolve_eq_ok_iff, h.workingDirectory,
    h.walk_eq_ok_iff]

lemma writable_eq_ok_iff (h : SameDirectories fs fs') :
    fs'.writable p = .ok place ↔ fs.writable p = .ok place := by
  simp only [FileSystem.writable_eq_ok_iff, h.resolve_eq_ok_iff, Ne, h.directory]

/-- A path reads as before if the file at its end is as before. -/
lemma readText_eq_ok_iff (h : SameDirectories fs fs')
    (hget : ∀ place, fs.resolve p = .ok place → fs'.get? place = fs.get? place) {t : Text} :
    fs'.readText p = .ok t ↔ fs.readText p = .ok t := by
  rw [FileSystem.readText_eq_ok_iff, FileSystem.readText_eq_ok_iff]
  refine exists_congr fun place => exists_congr fun content => and_congr_left fun _ => ?_
  rw [FileSystem.lookup_eq_ok_iff, FileSystem.lookup_eq_ok_iff, h.resolve_eq_ok_iff]
  exact and_congr_right fun hplace => by rw [hget place hplace]

lemma lookup_directory_iff (h : SameDirectories fs fs') {w : Bool} :
    fs'.lookup p = .ok (place, .directory w) ↔ fs.lookup p = .ok (place, .directory w) := by
  rw [FileSystem.lookup_eq_ok_iff, FileSystem.lookup_eq_ok_iff, h.resolve_eq_ok_iff, h.directory]

end SameDirectories

/-- A file where there is no directory. -/
lemma sameDirectories_put_file (h : ∀ w, fs.get? place ≠ some (.directory w)) :
    SameDirectories fs (fs.put place (.file content)) := by
  refine ⟨rfl, fun other w => ?_⟩
  rw [get?_put]
  by_cases ho : other = place
  · rw [if_pos ho, ho]
    exact iff_of_false (by simp) (h w)
  · rw [if_neg ho]

/-! ## Staged files -/

lemma mem_of_get? (h : fs.get? place = some e) : (place, e) ∈ fs.entries := by
  obtain ⟨front, back, hentries, _⟩ := List.lookup_eq_some_iff.1 h
  rw [hentries]
  exact List.mem_append_right _ List.mem_cons_self

lemma stagingName_injective {m n : Nat} (h : stagingName m = stagingName n) : m = n := by
  have := Utf8.encode_injective h
  rw [List.append_cancel_right_eq, List.append_cancel_left_eq] at this
  exact Numeral.write_injective (by omega) this

/-- More staging names than there are entries cannot all be taken. -/
theorem get?_freshName (fs : FileSystem) (dir : Place) :
    fs.get? (dir ++ [fs.freshName dir]) = none := by
  unfold freshName
  dsimp only
  cases hfind : List.find? (fun name => (fs.get? (dir ++ [name])).isNone)
      ((List.range (fs.entries.length + 1)).map stagingName) with
  | some name =>
    have := List.find?_some hfind
    exact Option.isNone_iff_eq_none.1 this
  | none =>
    let places := (List.range (fs.entries.length + 1)).map fun n => dir ++ [stagingName n]
    have htaken : places ⊆ fs.entries.map Prod.fst := by
      intro place hplace
      obtain ⟨n, hn, rfl⟩ := List.mem_map.1 hplace
      have := List.find?_eq_none.1 hfind _ (List.mem_map_of_mem hn)
      rw [Option.isNone_iff_eq_none] at this
      obtain ⟨e, he⟩ := Option.ne_none_iff_exists'.1 this
      exact List.mem_map_of_mem (mem_of_get? he)
    have hdistinct : places.Nodup := by
      rw [List.nodup_iff_pairwise_ne, List.pairwise_map]
      refine List.nodup_range.imp fun {m n} hne h => hne ?_
      exact stagingName_injective (List.cons.inj (List.append_cancel_left h)).1
    have hlength := (List.subperm_of_subset hdistinct htaken).length_le
    rw [List.length_map, List.length_map, List.length_range] at hlength
    omega

/-- Whatever is put under a staging name, there was nothing before. -/
lemma stage_eq_ok {staged : Place} (h : fs.stage p content = .ok (staged, fs')) :
    (∃ base w, fs.lookup p = .ok (base, .directory w) ∧ staged = base ++ [fs.freshName base]) ∧
      fs.get? staged = none ∧ fs' = fs.put staged (.file content) := by
  obtain ⟨⟨base, e⟩, hlookup, h⟩ := bind_eq_ok_iff.1 h
  cases e with
  | file content => cases h
  | directory w =>
    cases h
    exact ⟨⟨base, w, hlookup, rfl⟩, get?_freshName fs base, rfl⟩

lemma sameDirectories_stage (h : fs.get? place = none) :
    SameDirectories fs (fs.put place (.file content)) := by
  refine sameDirectories_put_file fun w => ?_
  rw [h]
  exact nofun

lemma get?_erase_stage (h : fs.get? place = none) (e : Entry) (other : Place) :
    ((fs.put place e).erase place).get? other = fs.get? other := by
  rw [get?_erase, get?_put]
  by_cases ho : other = place
  · rw [if_pos ho, ho, h]
  · rw [if_neg ho, if_neg ho]

/-- A staged file takes its place, also if it was staged there. -/
lemma replace_stage_eq_ok {staged : Place} (hfresh : fs.get? staged = none)
    (h : (fs.put staged (.file content)).replace staged p = .ok fs') :
    fs'.workingDirectory = fs.workingDirectory ∧ ∃ place, fs.writable p = .ok place ∧
      ∀ other, fs'.get? other = if other = place then some (.file content) else fs.get? other := by
  obtain ⟨place, hplace, h⟩ := bind_eq_ok_iff.1 h
  rw [get?_put, if_pos rfl] at h
  cases h
  rw [(sameDirectories_stage hfresh).writable_eq_ok_iff] at hplace
  refine ⟨rfl, place, hplace, fun other => ?_⟩
  rw [get?_put, get?_erase_stage hfresh]

lemma makeDirectory_eq_ok (h : fs.makeDirectory p = .ok fs') :
    ∃ place, fs.get? place = none ∧ fs' = fs.put place (.directory true) := by
  obtain ⟨place, _, h⟩ := bind_eq_ok_iff.1 h
  split at h
  · cases h
  · next hnone =>
    cases h
    exact ⟨place, Option.not_isSome_iff_eq_none.1 hnone, rfl⟩

/-- Nothing has changed but that there may be more directories. -/
def MakesDirectories (fs fs' : FileSystem) : Prop :=
  ∀ place, fs'.get? place = fs.get? place ∨
    fs.get? place = none ∧ fs'.get? place = some (.directory true)

namespace MakesDirectories

lemma refl (fs : FileSystem) : fs.MakesDirectories fs := fun _ => .inl rfl

lemma trans {fs'' : FileSystem} (h : fs.MakesDirectories fs') (h' : fs'.MakesDirectories fs'') :
    fs.MakesDirectories fs'' := by
  intro place
  rcases h' place with h' | ⟨hnone, h'⟩
  · rw [h']
    exact h place
  · rcases h place with h | ⟨_, h⟩
    · exact .inr ⟨h ▸ hnone, h'⟩
    · rw [h] at hnone
      cases hnone

lemma makeDirectory (h : fs.makeDirectory p = .ok fs') : fs.MakesDirectories fs' := by
  obtain ⟨place, hnone, rfl⟩ := makeDirectory_eq_ok h
  intro other
  rw [get?_put]
  by_cases ho : other = place
  · rw [if_pos ho, ho]
    exact .inr ⟨hnone, rfl⟩
  · rw [if_neg ho]
    exact .inl rfl

lemma makeChain (fs : FileSystem) (ps : List Path) : fs.MakesDirectories (fs.makeChain ps).2 := by
  induction ps generalizing fs with
  | nil => exact .refl fs
  | cons p ps ih =>
    unfold FileSystem.makeChain
    dsimp only
    split
    · next made hmade => exact .makeDirectory hmade
    · have hparents := ih fs
      split
      · next madeParents hchain =>
        rw [hchain] at hparents
        split
        · next made hmade => exact hparents.trans (.makeDirectory hmade)
        · split
          · exact hparents
          · exact hparents
      · exact hparents
    · split
      · exact .refl fs
      · exact .refl fs

lemma makeDirectories (fs : FileSystem) (p : Path) :
    fs.MakesDirectories (fs.makeDirectories p).2 := by
  unfold FileSystem.makeDirectories
  split
  · exact .refl fs
  · exact .makeChain fs _

lemma get?_file_iff (h : fs.MakesDirectories fs') : fs'.get? place = some (.file content) ↔
    fs.get? place = some (.file content) := by
  rcases h place with h | ⟨hnone, h⟩
  · rw [h]
  · rw [h, hnone]
    exact iff_of_false (by simp) (by simp)

end MakesDirectories

end FileSystem

namespace OutputDirectory

variable {fs fs' : FileSystem} {d : OutputDirectory} {name content : Text}

lemma ofText_of_isPlainName (h : isPlainName name = true) :
    Path.ofText name ≠ [] ∧ Path.slash ∉ Path.ofText name ∧ Path.ofText name ≠ Path.here ∧
      Path.ofText name ≠ Path.above := by
  simp only [isPlainName, Bool.and_eq_true, Bool.not_eq_true', List.isEmpty_eq_false_iff,
    decide_eq_true_eq] at h
  obtain ⟨⟨⟨⟨⟨hne, hhere⟩, habove⟩, hslash⟩, _⟩, _⟩ := h
  refine ⟨fun he => hne (Utf8.encode_injective he), fun hm => ?_,
    fun he => hhere (Utf8.encode_injective he), fun he => habove (Utf8.encode_injective he)⟩
  have : '/' ∈ name := Utf8.mem_of_mem_encode hm (by decide)
  rw [← List.contains_iff_mem, hslash] at this
  cases this

/-- A document that is written is at its name, and nothing else has changed. -/
theorem write_eq_ok {target : Path} (h : d.write name content fs = (.ok target, fs')) :
    isPlainName name = true ∧ target = d.path.join (Path.ofText name) ∧
      (∃ base w, fs.lookup d.path = .ok (base, .directory w)) ∧
      fs'.workingDirectory = fs.workingDirectory ∧ ∃ place, fs.writable target = .ok place ∧
        ∀ other, fs'.get? other =
          if other = place then some (.file (Utf8.encode content)) else fs.get? other := by
  unfold write at h
  cases hname : isPlainName name with
  | false =>
    rw [hname] at h
    cases h
  | true =>
    rw [hname, if_neg (by decide)] at h
    cases hstage : fs.stage d.path (Utf8.encode content) with
    | error e =>
      rw [hstage] at h
      cases h
    | ok s =>
      obtain ⟨staged, stagedFs⟩ := s
      obtain ⟨⟨base, w, hbase, _⟩, hfresh, rfl⟩ := FileSystem.stage_eq_ok hstage
      rw [hstage] at h
      dsimp only at h
      split at h
      · next hreplace =>
        cases h
        exact ⟨rfl, rfl, ⟨base, w, hbase⟩, FileSystem.replace_stage_eq_ok hfresh hreplace⟩
      · cases h

/-- A document that is not written changes nothing. -/
theorem write_eq_error {e : WriteError} (h : d.write name content fs = (.error e, fs')) :
    fs'.workingDirectory = fs.workingDirectory ∧ ∀ other, fs'.get? other = fs.get? other := by
  unfold write at h
  split at h
  · cases h
    exact ⟨rfl, fun _ => rfl⟩
  · split at h
    · cases h
      exact ⟨rfl, fun _ => rfl⟩
    · next staged stagedFs hstage =>
      obtain ⟨_, hfresh, rfl⟩ := FileSystem.stage_eq_ok hstage
      dsimp only at h
      split at h
      · cases h
      · cases h
        exact ⟨rfl, FileSystem.get?_erase_stage hfresh _⟩

/-- Whether or not a document is written, the directories stay, and so do all files but the one at
its name. -/
theorem write_frame (d : OutputDirectory) (name content : Text) (fs : FileSystem) :
    fs.SameDirectories (d.write name content fs).2 ∧ ∀ other,
      (∀ base, fs.resolve d.path = .ok base → other ≠ base ++ [Path.ofText name]) →
        (d.write name content fs).2.get? other = fs.get? other := by
  cases hwrite : d.write name content fs with
  | mk result fs' =>
    cases result with
    | error e =>
      obtain ⟨hdir, hget⟩ := write_eq_error hwrite
      exact ⟨⟨hdir, fun place w => by rw [hget]⟩, fun other _ => hget other⟩
    | ok target =>
      obtain ⟨hname, rfl, ⟨base, w, hbase⟩, hdir, place, hplace, hget⟩ := write_eq_ok hwrite
      obtain ⟨hresolve, hfile, _⟩ := FileSystem.writable_eq_ok_iff.1 hplace
      obtain ⟨hbase, _⟩ := FileSystem.lookup_eq_ok_iff.1 hbase
      obtain ⟨hne, hslash, hhere, habove⟩ := ofText_of_isPlainName hname
      have hat := FileSystem.resolve_join hbase hne hslash hhere habove hresolve
      refine ⟨⟨hdir, fun other w => ?_⟩, fun other hother => ?_⟩
      · dsimp only
        rw [hget]
        by_cases ho : other = place
        · rw [if_pos ho, ho]
          exact iff_of_false (by simp) (hfile w)
        · rw [if_neg ho]
      · dsimp only
        rw [hget, if_neg]
        rw [hat]
        exact hother base hbase

/-- Two names lead to two places. -/
lemma ne_of_resolve_join {other : Text} {base place : Place} (hname : isPlainName name = true)
    (hne : other ≠ name) (hbase : fs.resolve d.path = .ok base)
    (hplace : fs.resolve (d.path.join (Path.ofText name)) = .ok place) :
    place ≠ base ++ [Path.ofText other] := by
  obtain ⟨hempty, hslash, hhere, habove⟩ := ofText_of_isPlainName hname
  rw [FileSystem.resolve_join hbase hempty hslash hhere habove hplace]
  intro heq
  exact hne (Utf8.encode_injective (List.cons.inj (List.append_cancel_left heq)).1).symm

/-- What is read from a name stays when another name is written. -/
lemma readText_of_write_other {other : Text} {result : Except WriteError Path}
    (h : d.write other content fs = (result, fs')) (hname : isPlainName name = true)
    (hne : other ≠ name) (t : Text) :
    fs'.readText (d.path.join (Path.ofText name)) = .ok t ↔
      fs.readText (d.path.join (Path.ofText name)) = .ok t := by
  obtain ⟨hsame, hget⟩ := write_frame d other content fs
  rw [h] at hsame hget
  exact hsame.readText_eq_ok_iff fun place hplace => hget place fun base hbase =>
    ne_of_resolve_join hname hne hbase hplace

/-- A document that is written is read back. -/
theorem readText_of_write {target : Path} (h : d.write name content fs = (.ok target, fs')) :
    fs'.readText target = .ok content := by
  obtain ⟨hsame, _⟩ := write_frame d name content fs
  rw [h] at hsame
  obtain ⟨_, _, _, _, place, hplace, hget⟩ := write_eq_ok h
  obtain ⟨hresolve, _, hasks⟩ := FileSystem.writable_eq_ok_iff.1 hplace
  refine FileSystem.readText_eq_ok_iff.2 ⟨place, Utf8.encode content, ?_, Utf8.decode?_encode _⟩
  refine FileSystem.lookup_eq_ok_iff.2 ⟨hsame.resolve_eq_ok_iff.2 hresolve, ?_, fun _ => hasks⟩
  rw [hget, if_pos rfl]

lemma prepare_eq_ok {path : Path} (h : prepare path fs = (.ok d, fs')) :
    d = ⟨path⟩ ∧ ∃ place, fs'.lookup path = .ok (place, .directory true) := by
  unfold prepare at h
  dsimp only at h
  generalize (if (fs.lookup path).isOk = true then (.ok (), fs) else fs.makeDirectories path) = made
    at h
  obtain ⟨made, madeFs⟩ := made
  dsimp only at h
  split at h
  · cases h
  · split at h
    · cases h
    · cases h
    · cases h
    · next place hlookup =>
      cases h
      exact ⟨rfl, place, hlookup⟩

/-- A directory that can be written into is left as it is. -/
lemma prepare_of_lookup {path : Path} {place : Place}
    (h : fs.lookup path = .ok (place, .directory true)) : prepare path fs = (.ok ⟨path⟩, fs) := by
  have hthere : (fs.lookup path).isOk = true := by
    rw [h]
    rfl
  unfold prepare
  dsimp only
  rw [if_pos hthere]
  dsimp only
  rw [h]

lemma makesDirectories_prepare (path : Path) (fs : FileSystem) :
    fs.MakesDirectories (prepare path fs).2 := by
  unfold prepare
  dsimp only
  split
  · exact .refl fs
  · exact .makeDirectories fs path

end OutputDirectory

end AffiliateLinks
