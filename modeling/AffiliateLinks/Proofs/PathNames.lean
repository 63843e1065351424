import AffiliateLinks.Output.Directory
import AffiliateLinks.Proofs.Cutting
import AffiliateLinks.Proofs.Steps
import AffiliateLinks.Proofs.Utf8Reading

/-!
# Names at the end of paths

How a path is displayed determines under which name its page is written. So inputs that do not share
a name are labelled apart. A name behind a directory's path is one more piece of the path.
-/

namespace AffiliateLinks.Path

open Utf8 (decodeLossy)

variable {p q a : Path} {name : Bytes}

lemma split_cons_slash (p : Path) : split (slash :: p) = [] :: split p := by
  rw [split, if_pos rfl]

lemma split_cons_of_ne {b : UInt8} {c : Bytes} {cs : List Bytes} (h : b ≠ slash)
    (hp : split p = c :: cs) : split (b :: p) = (b :: c) :: cs := by
  rw [split, if_neg h, hp]

lemma split_of_not_mem (h : slash ∉ p) : split p = [p] := by
  induction p with
  | nil => rfl
  | cons b p ih =>
    rw [List.mem_cons, not_or] at h
    exact split_cons_of_ne (Ne.symm h.1) (ih h.2)

lemma split_append_slash (h : slash ∉ a) (p : Path) : split (a ++ slash :: p) = a :: split p := by
  induction a with
  | nil => exact split_cons_slash p
  | cons b a ih =>
    rw [List.mem_cons, not_or] at h
    exact split_cons_of_ne (Ne.symm h.1) (ih h.2)

/-- A path is one piece, or has a slash behind its first piece. -/
theorem split_induction {motive : Path → List Bytes → Prop}
    (last : ∀ a, slash ∉ a → motive a [a])
    (more : ∀ a p, slash ∉ a → motive p (split p) → motive (a ++ slash :: p) (a :: split p))
    (p : Path) : motive p (split p) := by
  induction h : p.length using Nat.strongRecOn generalizing p with
  | ind n ih =>
    by_cases hp : slash ∈ p
    · obtain ⟨a, q, rfl, ha⟩ := List.eq_append_cons_of_mem hp
      rw [split_append_slash ha]
      refine more a q ha (ih q.length ?_ q rfl)
      rw [← h, List.length_append, List.length_cons]
      omega
    · rw [split_of_not_mem hp]
      exact last p hp

lemma slash_not_mem_decodeLossy {bs : Bytes} (h : slash ∉ bs) : '/' ∉ decodeLossy bs :=
  fun hm => h (Utf8.mem_of_mem_decodeLossy (s := slash) (by decide) (by decide) hm)

theorem split_display (p : Path) : Text.split '/' p.display = (split p).map decodeLossy := by
  induction p using split_induction with
  | last a ha => exact Text.split_of_not_mem (slash_not_mem_decodeLossy ha)
  | more a p ha ih =>
    rw [display, Utf8.decodeLossy_append (s := slash) (by decide),
      List.map_cons, ← ih]
    exact Text.split_append_cons (slash_not_mem_decodeLossy ha) _

lemma isRooted_display (p : Path) : p.isRooted = decide (p.display.head? = some '/') := by
  refine decide_eq_decide.2 ?_
  cases p with
  | nil => exact iff_of_false (by decide) (by rw [display, Utf8.decodeLossy_nil]; decide)
  | cons b p =>
    rw [display, Utf8.decodeLossy_cons, List.head?_cons, List.head?_cons, Option.some.injEq,
      Option.some.injEq]
    constructor
    · rintro rfl
      rw [Utf8.next_ascii (by decide)]
      rfl
    · exact fun h => (Utf8.eq_of_lenient_next (s := slash) (by decide) (by decide) h).1

lemma decodeLossy_eq_here_iff {c : Bytes} : decodeLossy c = ['.'] ↔ c = here := by
  refine (Utf8.decodeLossy_eq_cons_iff (s := 0x2E) (by decide) (by decide)).trans ?_
  simp only [Utf8.decodeLossy_eq_nil_iff, exists_eq_right]
  rfl

lemma decodeLossy_eq_above_iff {c : Bytes} : decodeLossy c = ['.', '.'] ↔ c = above := by
  refine (Utf8.decodeLossy_eq_cons_iff (s := 0x2E) (by decide) (by decide)).trans ?_
  constructor
  · rintro ⟨rest, rfl, hrest⟩
    rw [decodeLossy_eq_here_iff.1 hrest]
    rfl
  · rintro rfl
    exact ⟨here, rfl, decodeLossy_eq_here_iff.2 rfl⟩

lemma map_filter_decodeLossy {f : Bytes → Bool} {g : Text → Bool}
    (h : ∀ c, f c = g (decodeLossy c)) (cs : List Bytes) :
    (cs.filter f).map decodeLossy = (cs.map decodeLossy).filter g := by
  rw [List.filter_map]
  exact congrArg (List.map decodeLossy) (List.filter_congr fun c _ => h c)

lemma map_pieces (p : Path) :
    p.pieces.map decodeLossy = (Text.split '/' p.display).filter fun t => !t.isEmpty := by
  rw [split_display, pieces]
  refine map_filter_decodeLossy (fun c => ?_) _
  rw [Bool.eq_iff_iff, Bool.not_eq_true', Bool.not_eq_true', List.isEmpty_eq_false_iff,
    List.isEmpty_eq_false_iff, Ne, Ne, Utf8.decodeLossy_eq_nil_iff]

lemma map_components_eq (h : p.display = q.display) :
    p.components.map decodeLossy = q.components.map decodeLossy := by
  have hhere (cs : List Bytes) :
      (cs.filter (· ≠ here)).map decodeLossy = (cs.map decodeLossy).filter (· ≠ ['.']) := by
    refine map_filter_decodeLossy (fun c => ?_) cs
    rw [decide_eq_decide, Ne, Ne, decodeLossy_eq_here_iff]
  have hrooted : p.isRooted = q.isRooted := by rw [isRooted_display, isRooted_display, h]
  have hpieces : p.pieces.map decodeLossy = q.pieces.map decodeLossy := by
    rw [map_pieces, map_pieces, h]
  unfold components
  rw [hrooted]
  cases q.isRooted with
  | true => simp only [hhere, hpieces]
  | false =>
    cases hp : p.pieces with
    | nil =>
      rw [hp, List.map_nil, eq_comm, List.map_eq_nil_iff] at hpieces
      rw [hpieces]
    | cons c cs =>
      rw [hp, List.map_cons, eq_comm, List.map_eq_cons_iff] at hpieces
      obtain ⟨d, ds, hq, hd, hds⟩ := hpieces
      simp only [hq, List.map_cons, hhere, hd, hds]

/-- The name under which a page is written can be told from how its path is displayed. -/
theorem outputName_of_display (h : p.display = q.display) {name : Text} :
    p.outputName = .ok name ↔ q.outputName = .ok name := by
  have hfile (p : Path) : p.outputName = .ok name ↔
      ((p.components.map decodeLossy).getLast?.filter fun t => t ≠ ['.'] ∧ t ≠ ['.', '.']) =
        some name := by
    unfold outputName fileName?
    rw [List.getLast?_map]
    cases p.components.getLast? with
    | none => simp
    | some c =>
      have hnames : (decodeLossy c ≠ ['.'] ∧ decodeLossy c ≠ ['.', '.']) ↔ c ≠ here ∧ c ≠ above := by
        rw [Ne, Ne, decodeLossy_eq_here_iff, decodeLossy_eq_above_iff]
      by_cases hc : c ≠ here ∧ c ≠ above
      · simp [Option.filter, hc, hnames.2 hc]
      · simp [Option.filter, hc, hnames]
  rw [hfile, hfile, map_components_eq h]

lemma split_append (a p : Path) : split (a ++ slash :: p) = split a ++ split p := by
  induction a using split_induction with
  | last a ha => exact split_append_slash ha p
  | more a q ha ih =>
    rw [List.append_assoc, List.cons_append, split_append_slash ha, ih, List.cons_append]

lemma pieces_append (a p : Path) : pieces (a ++ slash :: p) = pieces a ++ pieces p := by
  rw [pieces, split_append, List.filter_append]
  rfl

lemma pieces_name (hname : name ≠ []) (hslash : slash ∉ name) : pieces name = [name] := by
  rw [pieces, split_of_not_mem hslash, List.filter_cons_of_pos]
  · rfl
  · rw [Bool.not_eq_true', List.isEmpty_eq_false_iff]
    exact hname

/-- A name behind a directory stands behind one slash. -/
lemma join_eq (hp : p ≠ []) (name : Bytes) :
    ∃ a, join p name = a ++ slash :: name ∧ pieces a = pieces p := by
  have hempty : p.isEmpty = false := List.isEmpty_eq_false_iff.2 hp
  unfold join
  rw [hempty, Bool.false_or]
  by_cases hslash : p.endsInSlash = true
  · obtain ⟨a, rfl⟩ := List.getLast?_eq_some_iff.1 (of_decide_eq_true hslash)
    refine ⟨a, ?_, ?_⟩
    · rw [if_pos hslash, List.append_assoc, List.cons_append, List.nil_append]
    · rw [pieces_append]
      exact (List.append_nil _).symm
  · exact ⟨p, if_neg hslash, rfl⟩

lemma pieces_join (hp : p ≠ []) (hname : name ≠ []) (hslash : slash ∉ name) :
    pieces (join p name) = pieces p ++ [name] := by
  obtain ⟨a, ha, hpieces⟩ := join_eq hp name
  rw [ha, pieces_append, hpieces, pieces_name hname hslash]

lemma isRooted_join (hp : p ≠ []) (name : Bytes) : isRooted (join p name) = isRooted p := by
  cases p with
  | nil => exact absurd rfl hp
  | cons b p =>
    unfold join
    split
    · rfl
    · rfl

end AffiliateLinks.Path

namespace AffiliateLinks

variable {inputs : List Path} {names taken : List Text}

lemma outputNamesAfter_eq_ok (h : outputNamesAfter taken inputs = .ok names) :
    inputs.map Path.outputName = names.map .ok ∧ names.Nodup ∧ ∀ n ∈ names, n ∉ taken := by
  induction inputs generalizing taken names with
  | nil =>
    cases h
    exact ⟨rfl, List.nodup_nil, nofun⟩
  | cons p ps ih =>
    obtain ⟨name, hname, h⟩ := bind_eq_ok_iff.1 h
    by_cases htaken : taken.contains name = true
    · rw [if_pos htaken] at h
      cases h
    rw [if_neg htaken] at h
    obtain ⟨rest, hrest, h⟩ := bind_eq_ok_iff.1 h
    cases h
    obtain ⟨hmap, hnodup, hnew⟩ := ih hrest
    rw [List.contains_iff_mem] at htaken
    refine ⟨by rw [List.map_cons, List.map_cons, hname, hmap], ?_, ?_⟩
    · exact List.nodup_cons.2 ⟨fun hm => hnew name hm List.mem_cons_self, hnodup⟩
    · exact List.forall_mem_cons.2 ⟨htaken, fun n hn hm => hnew n hn (List.mem_cons_of_mem _ hm)⟩

/-- Inputs that are accepted together are displayed differently. -/
theorem nodup_display_of_outputNames (h : outputNames inputs = .ok names) :
    (inputs.map Path.display).Nodup := by
  obtain ⟨hmap, hnodup, _⟩ := outputNamesAfter_eq_ok h
  have hdistinct : (inputs.map Path.outputName).Nodup := by
    rw [hmap, List.nodup_iff_pairwise_ne, List.pairwise_map]
    exact hnodup.imp fun hne heq => hne (Except.ok.inj heq)
  have hok : ∀ p ∈ inputs, ∃ name, p.outputName = .ok name := by
    intro p hp
    obtain ⟨name, _, hname⟩ := List.mem_map.1 (hmap ▸ List.mem_map_of_mem hp)
    exact ⟨name, hname.symm⟩
  rw [List.nodup_iff_pairwise_ne, List.pairwise_map] at hdistinct ⊢
  refine hdistinct.imp_of_mem fun {p q} hp _ hne heq => hne ?_
  obtain ⟨name, hname⟩ := hok p hp
  rw [hname, (Path.outputName_of_display heq).1 hname]

end AffiliateLinks
