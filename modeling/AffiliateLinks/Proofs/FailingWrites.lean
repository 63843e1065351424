import AffiliateLinks.Proofs.FileChanges

/-!
# Writes that may fail

Writing a document takes several steps: a file is staged under a name of its own, filled, put on the
disk and moved to the name of the document. A device can fail at each of them, and it chooses the name
of the staged file. Main statement: on every device a document is written whole or the file system is
left as it was.
-/

namespace AffiliateLinks

namespace FileSystem

variable {fs : FileSystem} {place staged : Place} {e : Entry} {es : List (Place × Entry)}
  {content : Bytes} {p : Path}

lemma putEntry_of_lookup (h : es.lookup place = none) : putEntry place e es = es ++ [(place, e)] := by
  induction es with
  | nil => rfl
  | cons g es ih =>
    obtain ⟨p, g⟩ := g
    rw [lookup_cons] at h
    split_ifs at h with hp
    rw [putEntry, if_neg (Ne.symm hp), ih h, List.cons_append]

lemma putEntry_putEntry (place : Place) (e f : Entry) (es : List (Place × Entry)) :
    putEntry place f (putEntry place e es) = putEntry place f es := by
  induction es with
  | nil => simp [putEntry]
  | cons g es ih =>
    obtain ⟨p, g⟩ := g
    by_cases hp : p = place
    · simp [putEntry, hp]
    · simp [putEntry, hp, ih]

/-- What is put at a place last stays. -/
lemma put_put (fs : FileSystem) (place : Place) (e f : Entry) :
    (fs.put place e).put place f = fs.put place f := by
  simp only [put, putEntry_putEntry]

/-- Taking away what was put where nothing was leaves the file system as it was. -/
lemma erase_put (h : fs.get? place = none) (e : Entry) : (fs.put place e).erase place = fs := by
  have hput : putEntry place e fs.entries = fs.entries ++ [(place, e)] := putEntry_of_lookup h
  have hkept : (fs.erase place).entries = fs.entries := by
    refine List.filter_eq_self.2 fun f hf => decide_eq_true ?_
    exact Ne.symm (bne_iff_ne.1 (List.lookup_eq_none_iff.1 h f hf))
  have herased : ((fs.put place e).erase place).entries = (fs.erase place).entries := by
    simp only [put, erase, hput, List.filter_append]
    simp
  exact congrArg (FileSystem.mk · fs.workingDirectory) (herased.trans hkept)

/-- A staged file takes its place as if it had been put there at once. -/
lemma replace_put (h : fs.get? staged = none) : (fs.put staged (.file content)).replace staged p =
    (fs.put staged (.file content)).writable p >>= fun place => .ok (fs.put place (.file content)) := by
  simp only [replace, get?_put, if_pos, erase_put h]

end FileSystem

/-- A step at which a document cannot be written, and the error that it ends with. -/
inductive Fault
  | staging (e : FileError)
  /-- Only the first bytes of the content get into the staged file. -/
  | filling (written : Nat) (e : FileError)
  | syncing (e : FileError)
  | moving (e : FileError)
  deriving DecidableEq, Repr

/-- What is not decided by the files that are there: under which name, not used for anything in its
directory, a file is staged, and at which step the device fails, if it does. -/
structure Device where
  stagingName : FileSystem → Place → Bytes := FileSystem.freshName
  get?_stagingName (fs : FileSystem) (dir : Place) : fs.get? (dir ++ [stagingName fs dir]) = none := by
    exact FileSystem.get?_freshName
  fault : Option Fault := none

namespace Device

/-- Puts an empty file under the staging name. -/
def stage (v : Device) (fs : FileSystem) (dir : Path) : Except FileError (Place × FileSystem) :=
  match v.fault with
  | some (.staging e) => .error e
  | _ => do
    match ← fs.lookup dir with
    | (place, .directory _) =>
      let staged := place ++ [v.stagingName fs place]
      .ok (staged, fs.put staged (.file []))
    | (_, .file _) => .error .notDirectory

/-- Writes the content into the staged file. -/
def fill (v : Device) (fs : FileSystem) (staged : Place) (content : Bytes) :
    Except FileError Unit × FileSystem :=
  match v.fault with
  | some (.filling written e) => (.error e, fs.put staged (.file (content.take written)))
  | some (.syncing e) => (.error e, fs.put staged (.file content))
  | _ => (.ok (), fs.put staged (.file content))

def move (v : Device) (fs : FileSystem) (staged : Place) (target : Path) :
    Except FileError FileSystem :=
  match v.fault with
  | some (.moving e) => .error e
  | _ => fs.replace staged target

section Steps

variable {v : Device} {fs fs' : FileSystem} {staged : Place} {p : Path} {content : Bytes} {e : Entry}

lemma stage_eq_ok_iff : v.stage fs p = .ok (staged, fs') ↔ (∀ e, v.fault ≠ some (.staging e)) ∧
    ∃ base w, fs.lookup p = .ok (base, .directory w) ∧ staged = base ++ [v.stagingName fs base] ∧
      fs' = fs.put staged (.file []) := by
  unfold stage
  split
  · next e hfault => simp [hfault]
  · next hfault =>
    rw [and_iff_right hfault]
    refine bind_eq_ok_iff.trans ⟨?_, ?_⟩
    · rintro ⟨⟨base, e⟩, hlookup, h⟩
      cases e with
      | file content => cases h
      | directory w =>
        cases h
        exact ⟨base, w, hlookup, rfl, rfl⟩
    · rintro ⟨base, w, hlookup, rfl, rfl⟩
      exact ⟨_, hlookup, rfl⟩

/-- Whatever gets into the staged file, nothing else is changed. -/
lemma exists_of_fill {result : Except FileError Unit}
    (h : v.fill (fs.put staged e) staged content = (result, fs')) :
    ∃ written, fs' = fs.put staged (.file written) := by
  unfold fill at h
  simp only [FileSystem.put_put] at h
  split at h
  · cases h
    exact ⟨_, rfl⟩
  · cases h
    exact ⟨_, rfl⟩
  · cases h
    exact ⟨_, rfl⟩

lemma fill_eq_ok_iff : v.fill (fs.put staged e) staged content = (.ok (), fs') ↔
    (∀ written e, v.fault ≠ some (.filling written e)) ∧ (∀ e, v.fault ≠ some (.syncing e)) ∧
      fs' = fs.put staged (.file content) := by
  unfold fill
  rw [FileSystem.put_put]
  split
  · next hfault => simp [hfault]
  · next hfault => simp [hfault]
  · next hfilling hsyncing =>
    rw [and_iff_right hfilling, and_iff_right hsyncing, Prod.mk.injEq, and_iff_right rfl, eq_comm]

lemma move_eq_ok_iff (hfresh : fs.get? staged = none) :
    v.move (fs.put staged (.file content)) staged p = .ok fs' ↔ (∀ e, v.fault ≠ some (.moving e)) ∧
      ∃ place, fs.writable p = .ok place ∧ fs' = fs.put place (.file content) := by
  unfold move
  split
  · next hfault => simp [hfault]
  · next hfault =>
    rw [and_iff_right hfault, FileSystem.replace_put hfresh]
    refine bind_eq_ok_iff.trans ?_
    simp only [(FileSystem.sameDirectories_stage hfresh).writable_eq_ok_iff, Except.ok.injEq, eq_comm]

lemma fault_eq_none_iff : v.fault = none ↔ (∀ e, v.fault ≠ some (.staging e)) ∧
    ((∀ written e, v.fault ≠ some (.filling written e)) ∧ ∀ e, v.fault ≠ some (.syncing e)) ∧
      ∀ e, v.fault ≠ some (.moving e) := by
  cases hfault : v.fault with
  | none => simp
  | some f => cases f <;> simp

end Steps

end Device

namespace OutputDirectory

/-- Writes a document on a device. A staged file that does not get to its name is removed. -/
def writeOn (v : Device) (d : OutputDirectory) (name content : Text) (fs : FileSystem) :
    Except WriteError Path × FileSystem :=
  if !isPlainName name then (.error (.outsideName name), fs)
  else match v.stage fs d.path with
    | .error e => (.error (.file e), fs)
    | .ok (staged, fs) =>
      match v.fill fs staged (Utf8.encode content) with
      | (.error e, fs) => (.error (.file e), fs.erase staged)
      | (.ok (), fs) =>
        let target := d.path.join (Path.ofText name)
        match v.move fs staged target with
        | .ok fs => (.ok target, fs)
        | .error e => (.error (.file e), fs.erase staged)

/-- Everything is there that it takes to write under a name, and no step fails. -/
structure Accepts (v : Device) (d : OutputDirectory) (name : Text) (fs : FileSystem) : Prop where
  isPlainName : isPlainName name = true
  directory : ∃ base w, fs.lookup d.path = .ok (base, .directory w)
  writable : ∃ place, fs.writable (d.path.join (Path.ofText name)) = .ok place
  fault : v.fault = none

variable {v : Device} {d : OutputDirectory} {name content : Text} {fs fs' : FileSystem} {path : Path}
  {e : WriteError}

/-- Where writing breaks off, the staged file is removed, and with it all that has changed. -/
lemma eq_of_writeOn_eq_error (h : d.writeOn v name content fs = (.error e, fs')) : fs' = fs := by
  unfold writeOn at h
  split at h
  · cases h
    rfl
  · split at h
    · cases h
      rfl
    · next staged stagedFs hstage =>
      obtain ⟨_, base, w, _, rfl, rfl⟩ := Device.stage_eq_ok_iff.1 hstage
      -- Nothing was under the staging name, so all changes go when what is there is erased.
      have hfresh := v.get?_stagingName fs base
      split at h
      · next hfill =>
        obtain ⟨written, rfl⟩ := Device.exists_of_fill hfill
        cases h
        exact FileSystem.erase_put hfresh _
      · next hfill =>
        obtain ⟨written, rfl⟩ := Device.exists_of_fill hfill
        dsimp only at h
        split at h
        · cases h
        · cases h
          exact FileSystem.erase_put hfresh _

/-- A document that is written has come through every step. -/
lemma writeOn_eq_ok (h : d.writeOn v name content fs = (.ok path, fs')) :
    d.Accepts v name fs ∧ path = d.path.join (Path.ofText name) ∧
      ∃ place, fs.writable path = .ok place ∧ fs' = fs.put place (.file (Utf8.encode content)) := by
  unfold writeOn at h
  split at h
  · cases h
  · next hname =>
    split at h
    · cases h
    · next hstage =>
      obtain ⟨hstaging, base, w, hbase, rfl, rfl⟩ := Device.stage_eq_ok_iff.1 hstage
      split at h
      · cases h
      · next hfill =>
        obtain ⟨hfilling, hsyncing, rfl⟩ := Device.fill_eq_ok_iff.1 hfill
        dsimp only at h
        split at h
        · next hmove =>
          cases h
          obtain ⟨hmoving, place, hplace, rfl⟩ :=
            (Device.move_eq_ok_iff (v.get?_stagingName fs base)).1 hmove
          have hfault := Device.fault_eq_none_iff.2 ⟨hstaging, ⟨hfilling, hsyncing⟩, hmoving⟩
          rw [Bool.not_eq_true, Bool.not_eq_false'] at hname
          exact ⟨⟨hname, ⟨base, w, hbase⟩, ⟨place, hplace⟩, hfault⟩, rfl, place, hplace, rfl⟩
        · cases h

/-- What is accepted gets to its name. -/
lemma writeOn_of_accepts (h : d.Accepts v name fs) :
    (d.writeOn v name content fs).1 = .ok (d.path.join (Path.ofText name)) := by
  obtain ⟨hname, ⟨base, w, hbase⟩, ⟨place, hplace⟩, hfault⟩ := h
  obtain ⟨hstaging, ⟨hfilling, hsyncing⟩, hmoving⟩ := Device.fault_eq_none_iff.1 hfault
  let staged := base ++ [v.stagingName fs base]
  have hfresh : fs.get? staged = none := v.get?_stagingName fs base
  have hstage : v.stage fs d.path = .ok (staged, fs.put staged (.file [])) :=
    Device.stage_eq_ok_iff.2 ⟨hstaging, base, w, hbase, rfl, rfl⟩
  have hfill : v.fill (fs.put staged (.file [])) staged (Utf8.encode content) =
      (.ok (), fs.put staged (.file (Utf8.encode content))) :=
    Device.fill_eq_ok_iff.2 ⟨hfilling, hsyncing, rfl⟩
  have hmove : v.move (fs.put staged (.file (Utf8.encode content))) staged
      (d.path.join (Path.ofText name)) = .ok (fs.put place (.file (Utf8.encode content))) :=
    (Device.move_eq_ok_iff hfresh).2 ⟨hmoving, place, hplace, rfl⟩
  simp only [writeOn, hname, hstage, hfill, hmove, Bool.not_true, Bool.false_eq_true, if_false]

/-- On a device without faults documents are written as if their files were staged whole. -/
lemma write_eq_writeOn (d : OutputDirectory) (name content : Text) (fs : FileSystem) :
    d.write name content fs = d.writeOn {} name content fs := by
  unfold write writeOn Device.stage FileSystem.stage
  split_ifs with hname
  · rfl
  · cases hlookup : fs.lookup d.path with
    | error e => rfl
    | ok found =>
      obtain ⟨place, e⟩ := found
      cases e with
      | file content => rfl
      | directory w =>
        dsimp only [Device.fill, Device.move, bind, Except.bind]
        generalize place ++ [fs.freshName place] = staged
        cases hreplace : (fs.put staged (.file (Utf8.encode content))).replace staged
            (d.path.join (Path.ofText name)) with
        | error e => simp only [FileSystem.put_put, hreplace]
        | ok fs' => simp only [FileSystem.put_put, hreplace]

/-- A document that a device has written is written as on any other. -/
lemma write_of_writeOn (h : d.writeOn v name content fs = (.ok path, fs')) :
    d.write name content fs = (.ok path, fs') := by
  obtain ⟨haccepts, rfl, place, hplace, rfl⟩ := writeOn_eq_ok h
  obtain ⟨hname, hdir, hwritable, _⟩ := haccepts
  have hok : (d.writeOn {} name content fs).1 = .ok (d.path.join (Path.ofText name)) :=
    writeOn_of_accepts ⟨hname, hdir, hwritable, rfl⟩
  rw [write_eq_writeOn]
  cases hrun : d.writeOn {} name content fs with
  | mk result fs' =>
    rw [hrun] at hok
    obtain rfl : result = _ := hok
    -- The staging names may differ, but neither of them is left.
    obtain ⟨_, _, place', hplace', rfl⟩ := writeOn_eq_ok hrun
    rw [hplace] at hplace'
    cases hplace'
    rfl

/-- On every device, a document that is written is in the output directory under its name, and nothing
else has changed. If it is not written, nothing has. -/
theorem writeOn_all_or_nothing (d : OutputDirectory) (name content : Text) (fs : FileSystem) :
    d.write name content fs = d.writeOn {} name content fs ∧ ∀ v : Device,
      let run := d.writeOn v name content fs
      (run.1.isOk = true ↔ d.Accepts v name fs) ∧
        (∀ path, run.1 = .ok path → path = d.path.join (Path.ofText name) ∧
          Path.slash ∉ Path.ofText name ∧ ∃ base w, fs.lookup d.path = .ok (base, .directory w) ∧
            run.2.resolve path = .ok (base ++ [Path.ofText name]) ∧
            run.2.readText path = .ok content ∧
            run.2.workingDirectory = fs.workingDirectory ∧
            ∀ place, run.2.get? place = if place = base ++ [Path.ofText name]
              then some (.file (Utf8.encode content)) else fs.get? place) ∧
        ∀ e, run.1 = .error e → run.2 = fs := by
  refine ⟨write_eq_writeOn d name content fs, fun v => ?_⟩
  intro run
  refine ⟨⟨fun hok => ?_, fun haccepts => ?_⟩, fun path hpath => ?_, fun e herror => ?_⟩
  · cases hresult : run.1 with
    | ok path => exact (writeOn_eq_ok (Prod.ext hresult rfl)).1
    | error e =>
      rw [hresult] at hok
      cases hok
  · rw [show run.1 = _ from writeOn_of_accepts haccepts]
    rfl
  · have hrun : run = (.ok path, run.2) := Prod.ext hpath rfl
    have hwrite := write_of_writeOn hrun
    obtain ⟨hname, rfl, ⟨base, w, hbase⟩, hworking, place, hplace, hget⟩ := write_eq_ok hwrite
    obtain ⟨hne, hslash, hhere, habove⟩ := ofText_of_isPlainName hname
    have hresolve := (FileSystem.writable_eq_ok_iff.1 hplace).1
    obtain ⟨hresolveBase, _⟩ := FileSystem.lookup_eq_ok_iff.1 hbase
    have hat := FileSystem.resolve_join hresolveBase hne hslash hhere habove hresolve
    subst hat
    have hsame := (write_frame d name content fs).1
    rw [hwrite] at hsame
    exact ⟨rfl, hslash, base, w, hbase, hsame.resolve_eq_ok_iff.2 hresolve, readText_of_write hwrite,
      hworking, hget⟩
  · exact eq_of_writeOn_eq_error (Prod.ext herror rfl)

/-- A page takes the place of an earlier version. When writing breaks off after two bytes, the earlier
version stays. -/
theorem writeOn_earlier_version :
    let fs : FileSystem := ⟨[([], .directory true), ([Path.ofText "out".toList], .directory true),
      ([Path.ofText "out".toList, Path.ofText "a.html".toList], .file [0x61])], []⟩
    let d : OutputDirectory := ⟨Path.ofText "out".toList⟩
    let written := d.writeOn {} "a.html".toList "new".toList fs
    let broken := d.writeOn { fault := some (.filling 2 .notFound) } "a.html".toList "new".toList fs
    written.1 = .ok (Path.ofText "out/a.html".toList) ∧
      written.2.readText (Path.ofText "out/a.html".toList) = .ok "new".toList ∧
      broken.1.isOk = false ∧ broken.2 = fs := by
  intro fs d written broken
  have haccepts : d.Accepts {} "a.html".toList fs := ⟨by decide, ⟨_, _, rfl⟩, ⟨_, rfl⟩, rfl⟩
  have hwritten : written.1 = .ok (Path.ofText "out/a.html".toList) := writeOn_of_accepts haccepts
  have hruns := (writeOn_all_or_nothing d "a.html".toList "new".toList fs).2
  obtain ⟨_, _, _, _, _, _, hread, _⟩ := (hruns {}).2.1 _ hwritten
  obtain ⟨hok, _, herror⟩ := hruns { fault := some (.filling 2 .notFound) }
  have hbroken : broken.1.isOk = false := by
    rw [← Bool.not_eq_true, hok]
    rintro ⟨_, _, _, hfault⟩
    cases hfault
  refine ⟨hwritten, hread, hbroken, ?_⟩
  cases hresult : broken.1 with
  | ok path =>
    rw [hresult] at hbroken
    cases hbroken
  | error e => exact herror e hresult

end OutputDirectory

end AffiliateLinks
