import AffiliateLinks.Proofs.RecordedBatches
import Mathlib.Data.List.Dedup

/-!
# Ledgers as ordered maps

A ledger that was made by records alone has one entry for each source. The sources stand in the order
in which they were first recorded, and each has the entry that was recorded last for it.
-/

namespace AffiliateLinks.Ledger

open LedgerEntry (source)

variable {l : Ledger} {es : List LedgerEntry} {e : LedgerEntry} {s : Text}

/-- The ledger of entries that are recorded one after the other. -/
def ofRecords (es : List LedgerEntry) : Ledger := es.foldl (fun l e => l.record e) []

lemma ofRecords_concat (es : List LedgerEntry) (e : LedgerEntry) :
    ofRecords (es ++ [e]) = (ofRecords es).record e :=
  List.foldl_concat ..

/-- A record keeps the sources in their order, and a new one goes to the end. -/
lemma map_source_record (e : LedgerEntry) (l : Ledger) : (l.record e).map source =
    if e.source ∈ l.map source then l.map source else l.map source ++ [e.source] := by
  induction l with
  | nil => rfl
  | cons d ds ih =>
    by_cases hd : d.source = e.source
    · simp [record, hd]
    · rw [record, if_neg hd, List.map_cons, ih, List.map_cons]
      by_cases he : e.source ∈ ds.map source
      · simp only [he, List.mem_cons, or_true, if_true]
      · simp only [he, List.mem_cons, Ne.symm hd, or_self, if_false, List.cons_append]

lemma mem_map_source_ofRecords : s ∈ (ofRecords es).map source ↔ s ∈ es.map source := by
  induction es using List.reverseRecOn with
  | nil => rfl
  | append_singleton es e ih =>
    rw [ofRecords_concat, map_source_record, List.map_append, List.mem_append, ← ih]
    split_ifs with he
    · simp only [List.map_cons, List.map_nil, List.mem_singleton, iff_self_or]
      rintro rfl
      exact he
    · rw [List.mem_append]
      rfl

/-- The sources of a ledger come in the order of their first records. -/
lemma pairwise_ofRecords (es : List LedgerEntry) : ((ofRecords es).map source).Pairwise
    fun s t => (es.map source).idxOf s < (es.map source).idxOf t := by
  induction es using List.reverseRecOn with
  | nil => exact .nil
  | append_singleton es e ih =>
    -- What is recorded later does not move the first record of a source.
    have hkept : ((ofRecords es).map source).Pairwise fun s t =>
        ((es ++ [e]).map source).idxOf s < ((es ++ [e]).map source).idxOf t := by
      refine ih.imp_of_mem fun {s t} hs ht hlt => ?_
      rw [mem_map_source_ofRecords] at hs ht
      rwa [List.map_append, List.idxOf_append_of_mem hs, List.idxOf_append_of_mem ht]
    rw [ofRecords_concat, map_source_record]
    split_ifs with he
    · exact hkept
    · refine List.pairwise_append.2 ⟨hkept, List.pairwise_singleton _ _, fun s hs t ht => ?_⟩
      rw [List.mem_singleton.1 ht]
      rw [mem_map_source_ofRecords] at hs he
      rw [List.map_append, List.idxOf_append_of_mem hs, List.idxOf_append_of_notMem he]
      exact Nat.lt_of_lt_of_le (List.idxOf_lt_length_of_mem hs) (Nat.le_add_right _ _)

lemma nodup_ofRecords (es : List LedgerEntry) : ((ofRecords es).map source).Nodup := by
  rw [List.nodup_iff_pairwise_ne]
  refine (pairwise_ofRecords es).imp fun {s t} hlt heq => ?_
  rw [heq] at hlt
  exact Nat.lt_irrefl _ hlt

/-- The entries of a ledger are the last ones of their sources. -/
lemma mem_ofRecords : e ∈ ofRecords es ↔ IsLatest es e := by
  rw [ofRecords, mem_foldl_record, or_iff_left]
  rintro ⟨front, back, h, -⟩
  simp at h

/-- If no two entries share a source, each is found by its own. -/
lemma entryFor?_eq_some_iff (h : (l.map source).Nodup) :
    l.entryFor? s = some e ↔ e.source = s ∧ e ∈ l := by
  constructor
  · intro hfind
    rw [entryFor?] at hfind
    have hs := List.find?_some hfind
    exact ⟨of_decide_eq_true hs, List.mem_of_find?_eq_some hfind⟩
  · rintro ⟨rfl, he⟩
    exact entryFor?_of_mem h he

lemma entryFor?_eq_none_iff : l.entryFor? s = none ↔ s ∉ l.map source := by
  simp [entryFor?]

/-- A ledger made by records lists each source once, in the order of the first records. It finds for
each the last entry that was recorded, has as many entries as there are sources, and contains the
fingerprints of the last entries and no others. -/
theorem ofRecords_ordered_map (es : List LedgerEntry) :
    let l := ofRecords es
    let sources := es.map source
    (l.map source).Nodup ∧
      (l.map source).Pairwise (fun s t => sources.idxOf s < sources.idxOf t) ∧
      (∀ s e, l.entryFor? s = some e ↔ e.source = s ∧ IsLatest es e) ∧
      (∀ s, l.entryFor? s = none ↔ s ∉ sources) ∧
      l.length = sources.dedup.length ∧
      ∀ fingerprint, l.containsOutput fingerprint = true ↔
        ∃ e, IsLatest es e ∧ e.fingerprint = fingerprint := by
  intro l sources
  have hnodup : (l.map source).Nodup := nodup_ofRecords es
  refine ⟨hnodup, pairwise_ofRecords es, fun s e => ?_, fun s => ?_, ?_, fun fingerprint => ?_⟩
  · rw [entryFor?_eq_some_iff hnodup, mem_ofRecords]
  · rw [entryFor?_eq_none_iff, mem_map_source_ofRecords]
  · have hsources : (l.map source).Perm sources.dedup := by
      refine (List.perm_ext_iff_of_nodup hnodup sources.nodup_dedup).2 fun s => ?_
      rw [List.mem_dedup, mem_map_source_ofRecords]
    rw [← hsources.length_eq, List.length_map]
  · simp only [containsOutput, List.any_eq_true, decide_eq_true_eq, l, mem_ofRecords]

/-- A source that is recorded again keeps its place. -/
example : let entry (source fingerprint : String) : LedgerEntry :=
      ⟨source.toList, fingerprint.toList, ⟨0, 0, 0, 0⟩⟩
    ofRecords [entry "a.html" "one", entry "b.html" "one", entry "a.html" "two"] =
      [entry "a.html" "two", entry "b.html" "one"] := by decide

end AffiliateLinks.Ledger
