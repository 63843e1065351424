import AffiliateLinks.Ledger
import AffiliateLinks.Proofs.FileChanges
import AffiliateLinks.Proofs.RonReading

/-!
# Ledgers that are saved are loaded again

Main statement: the text of a ledger's file stands for that ledger, whatever its sources and
fingerprints are, if its counters fit into sixty-four bits. So a ledger that was written is loaded as
it was, and a ledger whose file was left alone as before.
-/

namespace AffiliateLinks

open Ron (Value)

/-- The counters fit into sixty-four bits. -/
structure Tally.Fits (t : Tally) : Prop where
  amazon : t.amazon < Nat.pow 2 64
  skimlinks : t.skimlinks < Nat.pow 2 64
  passthrough : t.passthrough < Nat.pow 2 64
  skipped : t.skipped < Nat.pow 2 64

namespace Ledger

variable {l : Ledger} {e : LedgerEntry}

lemma isPlain_toTree (e : LedgerEntry) : e.toTree.isPlain = true := rfl

lemma arePlain_map_toTree (l : Ledger) : Tree.arePlain (l.map LedgerEntry.toTree) = true := by
  induction l with
  | nil => rfl
  | cons e l ih => rw [List.map_cons, Tree.arePlain, isPlain_toTree, ih, Bool.and_self]

lemma heightItems_map_toTree (l : Ledger) : Tree.heightItems (l.map LedgerEntry.toTree) ≤ 4 := by
  induction l with
  | nil => exact Nat.zero_le _
  | cons e l ih =>
    rw [List.map_cons, Tree.heightItems]
    exact Nat.max_le.2 ⟨Nat.le_refl 4, ih⟩

/-- A field that is there once is read. -/
lemma required?_eq {α : Type} {fs : List (Text × Value)} {key : String} {k : Text} {v : Value}
    (h : (fs.filter fun f => f.1 = key.toList) = [(k, v)]) (read? : Value → Option α) :
    Value.required? fs key read? = read? v := by
  unfold Value.required? Value.field?
  rw [h]
  dsimp only
  cases read? v with
  | none => rfl
  | some a => rfl

lemma tally?_ofTree {t : Tally} (h : t.Fits) :
    LedgerEntry.tally? .none (Value.ofTree (Tree.ofTally t)) = some t := by
  let number (n : Nat) : Value := .number (Numeral.decimal n)
  let fs : List (Text × Value) := [("amazon".toList, number t.amazon),
    ("skimlinks".toList, number t.skimlinks), ("passthrough".toList, number t.passthrough),
    ("skipped".toList, number t.skipped)]
  have hfield (key : String) {n : Nat} (hkey : (fs.filter fun f => f.1 = key.toList) =
      [(key.toList, number n)]) (hn : n < Nat.pow 2 64) :
      Value.required? fs key Value.counter? = some n := by
    rw [required?_eq hkey]
    exact Ron.Number.counter?_decimal hn
  have hamazon := hfield "amazon" rfl h.amazon
  have hskimlinks := hfield "skimlinks" rfl h.skimlinks
  have hpassthrough := hfield "passthrough" rfl h.passthrough
  have hskipped := hfield "skipped" rfl h.skipped
  change (do return (⟨← Value.required? fs "amazon" Value.counter?,
    ← Value.required? fs "skimlinks" Value.counter?, ← Value.required? fs "passthrough" Value.counter?,
    ← Value.required? fs "skipped" Value.counter?⟩ : Tally)) = some t
  rw [hamazon, hskimlinks, hpassthrough, hskipped]
  rfl

lemma ofValue?_ofTree (h : e.tally.Fits) :
    LedgerEntry.ofValue? .none (Value.ofTree e.toTree) = some e := by
  let fs : List (Text × Value) := [("source".toList, .string e.source),
    ("fingerprint".toList, .string e.fingerprint), ("stats".toList, .ofTree (Tree.ofTally e.tally))]
  have hsource : Value.required? fs "source" Value.text? = some e.source :=
    required?_eq (v := .string e.source) rfl _
  have hfingerprint : Value.required? fs "fingerprint" Value.text? = some e.fingerprint :=
    required?_eq (v := .string e.fingerprint) rfl _
  have hstats : Value.required? fs "stats" (LedgerEntry.tally? .none) = some e.tally :=
    (required?_eq rfl _).trans (tally?_ofTree h)
  change (do return (⟨← Value.required? fs "source" Value.text?,
    ← Value.required? fs "fingerprint" Value.text?,
    ← Value.required? fs "stats" (LedgerEntry.tally? .none)⟩ : LedgerEntry)) = some e
  rw [hsource, hfingerprint, hstats]
  rfl

lemma mapM_ofValue? (h : ∀ e ∈ l, e.tally.Fits) :
    (Value.ofTrees (l.map LedgerEntry.toTree)).mapM (LedgerEntry.ofValue? .none) = some l := by
  induction l with
  | nil => rfl
  | cons e l ih =>
    rw [List.map_cons, Value.ofTrees, List.mapM_cons, ofValue?_ofTree (h e List.mem_cons_self),
      ih fun d hd => h d (List.mem_cons_of_mem e hd)]
    rfl

/-- The text of a ledger's file stands for the ledger. -/
theorem read?_render (h : ∀ e ∈ l, e.tally.Fits) : read? (render l) = some l := by
  let tree : Tree := .record [("processed".toList, .list (l.map LedgerEntry.toTree))]
  have hplain : Tree.fieldsPlain [("processed".toList, .list (l.map LedgerEntry.toTree))] = true := by
    have := arePlain_map_toTree l
    rw [Tree.fieldsPlain, Tree.isPlain, this]
    rfl
  have hheight : tree.height ≤ Value.depthLimit := by
    have := heightItems_map_toTree l
    change max (Tree.heightItems (l.map LedgerEntry.toTree) + 1) 0 + 2 ≤ 128
    omega
  have hvalue : Value.ofText? (render l) = some (.none, .ofTree tree) :=
    Value.ofText?_render hplain hheight
  have hprocessed : Value.required?
      [("processed".toList, Value.ofTree (.list (l.map LedgerEntry.toTree)))]
      "processed" (fun v => do (← v.list?).mapM (LedgerEntry.ofValue? .none)) = some l :=
    (required?_eq (v := .list (Value.ofTrees (l.map LedgerEntry.toTree))) rfl _).trans
      (mapM_ofValue? h)
  unfold read?
  rw [hvalue]
  exact hprocessed

lemma exists_of_required? {α : Type} {fs : List (Text × Value)} {key : String} {a : α}
    {read? : Value → Option α} (h : Value.required? fs key read? = some a) :
    ∃ v, read? v = some a := by
  unfold Value.required? Value.field? at h
  split at h
  · cases h
  · next v hfs =>
    cases hv : read? v with
    | none =>
      rw [hv] at h
      cases h
    | some b =>
      rw [hv] at h
      cases h
      exact ⟨v, hv⟩
  · cases h

lemma lt_of_counter? {v : Value} {n : Nat} (h : v.counter? = some n) : n < Nat.pow 2 64 := by
  cases v with
  | number t =>
    simp only [Value.counter?, Ron.Number.counter?, Option.bind_eq_bind, Option.bind_eq_some_iff] at h
    obtain ⟨⟨m, type⟩, _, h⟩ := h
    split at h
    · next hlimit =>
      cases h
      simp only [Bool.and_eq_true, decide_eq_true_eq] at hlimit
      exact hlimit.1.2
    · cases h
  | _ => cases h

lemma fits_of_tally? {extensions : Ron.Extensions} {v : Value} {t : Tally}
    (h : LedgerEntry.tally? extensions v = some t) : t.Fits := by
  simp only [LedgerEntry.tally?, Option.bind_eq_bind, Option.bind_eq_some_iff] at h
  obtain ⟨fs, _, amazon, ha, skimlinks, hk, passthrough, hp, skipped, hs, h⟩ := h
  cases h
  have hfield {key : String} {n : Nat} (h : Value.required? fs key Value.counter? = some n) :
      n < Nat.pow 2 64 := by
    obtain ⟨v, hv⟩ := exists_of_required? h
    exact lt_of_counter? hv
  exact ⟨hfield ha, hfield hk, hfield hp, hfield hs⟩

/-- Whatever is read from a text has counters that fit. -/
theorem fits_of_read? {t : Text} (h : read? t = some l) : ∀ e ∈ l, e.tally.Fits := by
  simp only [read?, Option.bind_eq_bind, Option.bind_eq_some_iff] at h
  obtain ⟨⟨extensions, v⟩, _, fs, _, h⟩ := h
  obtain ⟨list, h⟩ := exists_of_required? h
  obtain ⟨vs, _, h⟩ := Option.bind_eq_some_iff.1 h
  intro e he
  obtain ⟨v, _, hv⟩ := mem_of_mapM_eq_some h he
  simp only [LedgerEntry.ofValue?, Option.bind_eq_bind, Option.bind_eq_some_iff] at hv
  obtain ⟨fs, _, source, _, fingerprint, _, tally, htally, hv⟩ := hv
  cases hv
  obtain ⟨v, hv⟩ := exists_of_required? htally
  exact fits_of_tally? hv

variable {fs fs' : FileSystem} {dir : Path}

lemma value_load (dir : Path) (fs : FileSystem) : (load dir fs).value =
    match fs.readText (path dir) with
    | .ok t => (read? t).getD []
    | .error _ => [] := by
  unfold load
  cases fs.readText (path dir) with
  | error e =>
    cases e with
    | notFound => rfl
    | _ => rfl
  | ok t =>
    dsimp only
    cases read? t with
    | none => rfl
    | some l => rfl

lemma fits_load (dir : Path) (fs : FileSystem) : ∀ e ∈ (load dir fs).value, e.tally.Fits := by
  rw [value_load]
  cases fs.readText (path dir) with
  | error e => exact nofun
  | ok t =>
    dsimp only
    cases h : read? t with
    | none => exact nofun
    | some l => exact fits_of_read? h

/-- A ledger whose file reads as before is loaded as before. -/
theorem load_eq_of_readText
    (h : ∀ t, fs'.readText (path dir) = .ok t ↔ fs.readText (path dir) = .ok t) :
    (load dir fs').value = (load dir fs).value := by
  rw [value_load, value_load]
  cases ht : fs.readText (path dir) with
  | ok t => rw [(h t).2 ht]
  | error e =>
    cases ht' : fs'.readText (path dir) with
    | error e' => rfl
    | ok t =>
      rw [(h t).1 ht'] at ht
      cases ht

/-- A ledger that was written is loaded as it was. -/
theorem load_of_write {d : OutputDirectory} {l : Ledger} {target : Path}
    (h : d.write fileName l.render fs = (.ok target, fs')) (hl : ∀ e ∈ l, e.tally.Fits) :
    (load d.path fs').value = l := by
  obtain ⟨_, rfl, _⟩ := OutputDirectory.write_eq_ok h
  have hread : fs'.readText (path d.path) = .ok l.render := OutputDirectory.readText_of_write h
  rw [value_load, hread]
  dsimp only
  rw [read?_render hl, Option.getD_some]

/-- In a directory that can be written into, a ledger is saved by writing its file. -/
lemma result_save {place : Place} (h : fs.lookup dir = .ok (place, .directory true)) (l : Ledger) :
    (l.save dir).result fs = (OutputDirectory.mk dir).write fileName l.render fs :=
  Work.result_bind_of_ok (OutputDirectory.prepare_of_lookup h)

/-- A ledger that was saved is loaded as it was, and no line of the log says that its file could not
be read. -/
theorem load_of_save {target : Path} (hsave : (l.save dir).result fs = (.ok target, fs'))
    (hl : ∀ e ∈ l, e.tally.Fits) :
    target = path dir ∧ load dir fs' = ⟨l, [⟨.info, .ledger, "Loaded ledger with ".toList ++
      Numeral.decimal l.length ++ " processed documents from ".toList ++ (path dir).quoted⟩]⟩ := by
  obtain ⟨d, prepared, hdir, hwrite⟩ := Work.result_bind_eq_ok_iff.1 hsave
  rw [Work.result_perform] at hdir hwrite
  obtain ⟨rfl, _⟩ := OutputDirectory.prepare_eq_ok hdir
  obtain ⟨_, rfl, _⟩ := OutputDirectory.write_eq_ok hwrite
  have hread : fs'.readText (path dir) = .ok l.render := OutputDirectory.readText_of_write hwrite
  refine ⟨rfl, ?_⟩
  unfold load
  rw [hread]
  dsimp only
  rw [read?_render hl]
  rfl

/-- Quotes, control characters and combining characters come back, and so does the largest
counter. -/
theorem load_of_save_escaped :
    let dir := Path.ofText "out".toList
    let l : Ledger := [⟨"a\"b\\\u0007\u0301\n\u00a0.html".toList, "\u0301'\t\u200b".toList,
      ⟨Nat.pow 2 64 - 1, 0, 10, 0⟩⟩, ⟨[], "\u202e".toList, ⟨0, 0, 0, 0⟩⟩]
    let saved := (l.save dir).result .empty
    saved.1.isOk = true ∧ (∀ e ∈ l, e.tally.Fits) ∧ (load dir saved.2).value = l := by
  intro dir l saved
  have hok : saved.1.isOk = true := by decide +kernel
  have hfits : ∀ e ∈ l, e.tally.Fits := by
    intro e he
    rcases List.mem_cons.1 he with rfl | he
    · exact ⟨by decide, by decide, by decide, by decide⟩
    · cases List.mem_singleton.1 he
      exact ⟨by decide, by decide, by decide, by decide⟩
  cases hsave : saved with
  | mk result fs' =>
    cases result with
    | error e =>
      rw [hsave] at hok
      cases hok
    | ok target => exact ⟨rfl, hfits, congrArg WithLog.value (load_of_save hsave hfits).2⟩

end Ledger

end AffiliateLinks
