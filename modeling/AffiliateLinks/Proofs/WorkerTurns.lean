import AffiliateLinks.Batch.Run
import Mathlib

/-!
# Turns of workers

What the workers hold, completed or in work, are the results of the sources that were claimed, each
once. Every turn of a worker that has not stopped uses up some of the work that is left, so that a
schedule which gives every worker enough turns brings the batch to its end.
-/

namespace AffiliateLinks.Batch

/-- What a worker has completed, and the document that it has in work. -/
def Worker.held (w : Worker) : List (Nat × Document) :=
  w.completed ++ match w.phase with
    | .busy t => [(t.index, t.document)]
    | .free | .stopped => []

/-- The turns that a worker needs before it claims again, and for the claim that stops it. -/
def Phase.cost : Phase → Nat
  | .free => 1
  | .busy t => t.actions.length + 2
  | .stopped => 0

lemma Phase.eq_stopped_iff {p : Phase} : p = .stopped ↔ p.cost = 0 := by
  cases p with
  | free => exact iff_of_false nofun (by decide)
  | busy t => exact iff_of_false nofun (Nat.succ_ne_zero _)
  | stopped => exact iff_of_true rfl rfl

instance (f : Floor) : Decidable f.isDone :=
  decidable_of_iff (∀ w ∈ f.workers, w.phase.cost = 0)
    (forall₂_congr fun _ _ => Phase.eq_stopped_iff.symm)

namespace Job

/-- The index and the document of every source. -/
def results (j : Job) : List (Nat × Document) :=
  j.sources.mapIdx fun i s => (i, (j.task i s).document)

/-- The turns from the claim of a source to the next claim. -/
def weight (j : Job) (s : Source) : Nat := (j.task 0 s).actions.length + 2

/-- The turns that the sources from an index on need. -/
def remaining (j : Job) (next : Nat) : Nat := ((j.sources.drop next).map j.weight).sum

/-- A turn of a worker takes the counter and the worker to a next counter and a next worker. -/
inductive Turns (j : Job) (next : Nat) (w : Worker) : Nat → Worker → Prop
  | rests (h : w.phase = .stopped) : Turns j next w next w
  | claims {s : Source} (h : w.phase = .free) (hs : j.sources[next]? = some s) :
    Turns j next w (next + 1) { w with phase := .busy (j.task next s) }
  | stops (h : w.phase = .free) (hs : j.sources[next]? = none) :
    Turns j next w (next + 1) { w with phase := .stopped }
  | completes {index : Nat} {document : Document} (h : w.phase = .busy ⟨index, [], document⟩) :
    Turns j next w next
      { w with phase := .free, completed := w.completed ++ [(index, document)] }
  | acts {index : Nat} {document : Document} {a : Action} {as : List Action}
    (h : w.phase = .busy ⟨index, a :: as, document⟩) (thread : Thread) :
    Turns j next w next { w with thread, phase := .busy ⟨index, as, document⟩ }

variable {j : Job} {next next' : Nat} {w w' : Worker}

lemma turns_turn (j : Job) (next : Nat) (w : Worker) :
    j.Turns next w (j.turn next w).1 (j.turn next w).2.1 := by
  unfold turn
  split
  · next h => exact .rests h
  · next h =>
    split
    · next hs => exact .claims h hs
    · next hs => exact .stops h hs
  · next h => exact .completes h
  · next h => exact .acts h _

lemma getElem?_results (j : Job) (i : Nat) :
    j.results[i]? = j.sources[i]?.map fun s => (i, (j.task i s).document) := List.getElem?_mapIdx

lemma length_results (j : Job) : j.results.length = j.sources.length := List.length_mapIdx

/-- A turn adds to what the worker holds the result that it claims. -/
lemma Turns.held (h : j.Turns next w next' w') : ∃ claimed,
    j.results.take next' = j.results.take next ++ claimed ∧ w'.held = w.held ++ claimed := by
  cases h with
  | rests _ => exact ⟨[], (List.append_nil _).symm, by rw [List.append_nil]⟩
  | claims h hs =>
    refine ⟨_, List.take_add_one, ?_⟩
    rw [getElem?_results, hs]
    simp only [Worker.held, h, List.append_nil]
    rfl
  | stops h hs =>
    refine ⟨_, List.take_add_one, ?_⟩
    rw [getElem?_results, hs]
    simp only [Worker.held, h, Option.map_none, Option.toList_none, List.append_nil]
  | completes h =>
    refine ⟨[], (List.append_nil _).symm, ?_⟩
    simp only [Worker.held, h, List.append_nil]
  | acts h thread =>
    refine ⟨[], (List.append_nil _).symm, ?_⟩
    simp only [Worker.held, h, List.append_nil]

lemma Turns.le (h : j.Turns next w next' w') : next ≤ next' := by
  cases h with
  | rests _ => exact Nat.le_refl _
  | claims _ _ => exact Nat.le_succ _
  | stops _ _ => exact Nat.le_succ _
  | completes _ => exact Nat.le_refl _
  | acts _ _ => exact Nat.le_refl _

/-- A worker stops when the counter has passed the last source, and then it stays stopped. -/
lemma Turns.stopped (h : j.Turns next w next' w') (hw : w'.phase = .stopped) :
    w.phase = .stopped ∨ j.sources.length ≤ next' := by
  cases h with
  | rests h => exact .inl h
  | claims _ _ => cases hw
  | stops _ hs => exact .inr (Nat.le_succ_of_le (List.getElem?_eq_none_iff.1 hs))
  | completes _ => cases hw
  | acts _ _ => cases hw

lemma Turns.eq_of_stopped (h : j.Turns next w next' w') (hw : w.phase = .stopped) :
    next' = next ∧ w' = w := by
  cases h with
  | rests _ => exact ⟨rfl, rfl⟩
  | claims h _ => rw [hw] at h; cases h
  | stops h _ => rw [hw] at h; cases h
  | completes h => rw [hw] at h; cases h
  | acts h _ => rw [hw] at h; cases h

lemma remaining_of_some {s : Source} (hs : j.sources[next]? = some s) :
    j.remaining next = j.weight s + j.remaining (next + 1) := by
  rw [remaining, remaining, List.drop_eq_getElem?_toList_append, hs]
  simp only [Option.toList_some, List.singleton_append, List.map_cons, List.sum_cons]

lemma remaining_of_none (hs : j.sources[next]? = none) :
    j.remaining next = j.remaining (next + 1) := by
  rw [remaining, remaining, List.drop_eq_getElem?_toList_append (i := next), hs]
  rfl

/-- Unless it has stopped, a worker uses up work with every turn. -/
lemma Turns.cost (h : j.Turns next w next' w') (hw : w.phase ≠ .stopped) :
    j.remaining next' + w'.phase.cost < j.remaining next + w.phase.cost := by
  cases h with
  | rests h => exact absurd h hw
  | claims h hs =>
    have hweight : ∀ s, j.weight s = (j.task next s).actions.length + 2 := fun _ => rfl
    rw [remaining_of_some hs, hweight, h]
    simp only [Phase.cost]
    omega
  | stops h hs =>
    rw [remaining_of_none hs, h]
    simp only [Phase.cost]
    omega
  | completes h =>
    rw [h]
    simp only [Phase.cost, List.length_nil]
    omega
  | acts h thread =>
    rw [h]
    simp only [Phase.cost, List.length_cons]
    omega

end Job

namespace Floor

/-- The worker of this number has not stopped. -/
def IsActive (f : Floor) (worker : Nat) : Prop :=
  ∃ w, f.workers[worker]? = some w ∧ w.phase ≠ .stopped

lemma isDone_iff {f : Floor} : f.isDone ↔ ∀ i, ¬f.IsActive i := by
  constructor
  · rintro h i ⟨w, hw, hphase⟩
    exact hphase (h w (List.mem_of_getElem? hw))
  · intro h w hw
    obtain ⟨i, hi⟩ := List.getElem?_of_mem hw
    exact Classical.byContradiction fun hphase => h i ⟨w, hi, hphase⟩

end Floor

namespace Job

variable {j : Job} {f : Floor}

/-- The turns that can still be taken on a floor by workers that have not stopped. -/
def cost (j : Job) (f : Floor) : Nat :=
  j.remaining f.next + (f.workers.map fun w => w.phase.cost).sum

lemma advance_of_none {i : Nat} (hw : f.workers[i]? = none) : j.advance f i = f := by
  rw [advance, hw]

lemma advance_of_some {i : Nat} {w : Worker} (hw : f.workers[i]? = some w) :
    j.advance f i = ⟨(j.turn f.next w).1, f.workers.set i (j.turn f.next w).2.1,
      f.log ++ (j.turn f.next w).2.2⟩ := by
  rw [advance, hw]

/-- A turn changes the counter and one worker. -/
lemma advance_cases (j : Job) (f : Floor) (i : Nat) :
    (f.workers[i]? = none ∧ j.advance f i = f) ∨
      ∃ front w back w', f.workers = front ++ w :: back ∧ front.length = i ∧
        (j.advance f i).workers = front ++ w' :: back ∧
        j.Turns f.next w (j.advance f i).next w' := by
  cases hw : f.workers[i]? with
  | none => exact .inl ⟨rfl, advance_of_none hw⟩
  | some w =>
    obtain ⟨hi, hget⟩ := List.getElem?_eq_some_iff.1 hw
    obtain ⟨front, back, hworkers, hlength, hset⟩ : ∃ front back,
        f.workers = front ++ f.workers[i] :: back ∧ front.length = i ∧
        f.workers.set i (j.turn f.next w).2.1 = front ++ (j.turn f.next w).2.1 :: back :=
      List.exists_of_set hi
    rw [hget] at hworkers
    rw [advance_of_some hw]
    exact .inr ⟨front, w, back, _, hworkers, hlength, hset, turns_turn j f.next w⟩

/-- The workers hold the results of the sources that were claimed, and a worker stops only when all
were claimed. -/
structure Accounts (j : Job) (f : Floor) : Prop where
  staffed : f.workers ≠ []
  held : (f.workers.flatMap Worker.held).Perm (j.results.take f.next)
  stopped : ∀ w ∈ f.workers, w.phase = .stopped → j.sources.length ≤ f.next

lemma accounts_opening (j : Job) {n : Nat} (hn : 0 < n) : j.Accounts (.opening n) := by
  have hworker : ∀ w ∈ (Floor.opening n).workers, w.held = [] ∧ w.phase ≠ .stopped := by
    intro w hw
    obtain ⟨k, _, rfl⟩ := List.mem_map.1 hw
    exact ⟨rfl, nofun⟩
  have hlength : (Floor.opening n).workers.length = n := by
    rw [Floor.opening, List.length_map, List.length_range]
  refine ⟨List.ne_nil_of_length_pos (by omega), ?_,
    fun w hw hphase => absurd hphase (hworker w hw).2⟩
  rw [List.flatMap_eq_nil_iff.2 fun w hw => (hworker w hw).1]
  exact .refl _

lemma Accounts.advance (h : j.Accounts f) (i : Nat) : j.Accounts (j.advance f i) := by
  rcases advance_cases j f i with ⟨_, hsame⟩ | ⟨front, w, back, w', hbefore, _, hafter, hturn⟩
  · rwa [hsame]
  · obtain ⟨claimed, htake, hheld⟩ := hturn.held
    refine ⟨?_, ?_, ?_⟩
    · rw [hafter]
      exact List.append_ne_nil_of_right_ne_nil _ (List.cons_ne_nil _ _)
    · have hperm := h.held
      rw [hbefore, List.flatMap_append, List.flatMap_cons] at hperm
      rw [hafter, List.flatMap_append, List.flatMap_cons, htake]
      have hmove : (w'.held ++ back.flatMap Worker.held).Perm
          (w.held ++ back.flatMap Worker.held ++ claimed) := by
        rw [hheld, List.append_assoc, List.append_assoc]
        exact List.perm_append_comm.append_left _
      refine (hmove.append_left _).trans ?_
      rw [← List.append_assoc]
      exact hperm.append_right claimed
    · intro v hv hphase
      rw [hafter] at hv
      have hold : v ∈ f.workers → j.sources.length ≤ (j.advance f i).next := fun hmem =>
        Nat.le_trans (h.stopped v hmem hphase) hturn.le
      rcases List.mem_append.1 hv with hv | hv
      · exact hold (by rw [hbefore]; exact List.mem_append_left _ hv)
      · rcases List.mem_cons.1 hv with rfl | hv
        · rcases hturn.stopped hphase with hw | hlength
          · have hmem : w ∈ f.workers := by
              rw [hbefore]
              exact List.mem_append_right _ List.mem_cons_self
            exact Nat.le_trans (h.stopped w hmem hw) hturn.le
          · exact hlength
        · exact hold (by rw [hbefore]; exact List.mem_append_right _ (List.mem_cons_of_mem _ hv))

lemma workerCount_pos (settings : BatchSettings) (sources : List Source) :
    0 < workerCount settings sources := by
  unfold workerCount
  omega

theorem accounts_runSchedule (j : Job) (schedule : List Nat) :
    j.Accounts (j.runSchedule schedule) := by
  unfold runSchedule
  generalize hf : Floor.opening (workerCount j.settings j.sources) = f
  have h : j.Accounts f := hf ▸ accounts_opening j (workerCount_pos _ _)
  clear hf
  induction schedule generalizing f with
  | nil => exact h
  | cons i schedule ih => exact ih _ (h.advance i)

lemma isActive_of_advance {i k : Nat} (h : (j.advance f k).IsActive i) : f.IsActive i := by
  rcases advance_cases j f k with ⟨_, hsame⟩ | ⟨front, w, back, w', hbefore, hk, hafter, hturn⟩
  · rwa [hsame] at h
  · obtain ⟨v, hv, hphase⟩ := h
    rw [hafter] at hv
    rcases Nat.lt_trichotomy i k with hlt | heq | hgt
    · rw [List.getElem?_append_left (by omega)] at hv
      exact ⟨v, by rw [hbefore, List.getElem?_append_left (by omega), hv], hphase⟩
    · subst heq
      rw [← hk, List.getElem?_append_right (Nat.le_refl _), Nat.sub_self] at hv
      obtain rfl := Option.some.inj hv
      refine ⟨w, ?_, fun hw => hphase ((hturn.eq_of_stopped hw).2.symm ▸ hw)⟩
      rw [hbefore, ← hk, List.getElem?_append_right (Nat.le_refl _), Nat.sub_self]
      rfl
    · obtain ⟨d, rfl⟩ := Nat.exists_eq_add_of_lt hgt
      have hsplit : k + d + 1 - front.length = d + 1 := by omega
      rw [List.getElem?_append_right (by omega), hsplit, List.getElem?_cons_succ] at hv
      refine ⟨v, ?_, hphase⟩
      rw [hbefore, List.getElem?_append_right (by omega), hsplit, List.getElem?_cons_succ, hv]

lemma cost_advance_le (j : Job) (f : Floor) (i : Nat) : j.cost (j.advance f i) ≤ j.cost f := by
  rcases advance_cases j f i with ⟨_, hsame⟩ | ⟨front, w, back, w', hbefore, _, hafter, hturn⟩
  · exact Nat.le_of_eq (congrArg j.cost hsame)
  · simp only [cost, hbefore, hafter, List.map_append, List.map_cons, List.sum_append,
      List.sum_cons]
    by_cases hw : w.phase = .stopped
    · obtain ⟨hnext, rfl⟩ := hturn.eq_of_stopped hw
      exact Nat.le_of_eq (by rw [hnext])
    · have := hturn.cost hw
      omega

lemma cost_advance_lt {i : Nat} (h : f.IsActive i) : j.cost (j.advance f i) < j.cost f := by
  obtain ⟨v, hv, hphase⟩ := h
  rcases advance_cases j f i with ⟨hnone, _⟩ | ⟨front, w, back, w', hbefore, hi, hafter, hturn⟩
  · rw [hnone] at hv
    cases hv
  · rw [hbefore, ← hi, List.getElem?_append_right (Nat.le_refl _), Nat.sub_self] at hv
    obtain rfl := Option.some.inj hv
    have hcost := hturn.cost hphase
    simp only [cost, hbefore, hafter, List.map_append, List.map_cons, List.sum_append,
      List.sum_cons]
    omega

/-- A worker that is active at the end has used up work with each of its turns. -/
theorem cost_foldl_advance {i : Nat} (schedule : List Nat) (f : Floor)
    (h : (schedule.foldl j.advance f).IsActive i) :
    f.IsActive i ∧ j.cost (schedule.foldl j.advance f) + schedule.count i ≤ j.cost f := by
  induction schedule generalizing f with
  | nil => exact ⟨h, Nat.le_refl _⟩
  | cons k schedule ih =>
    obtain ⟨hactive, hcost⟩ := ih (j.advance f k) h
    have hactive := isActive_of_advance hactive
    refine ⟨hactive, ?_⟩
    rw [List.foldl_cons]
    by_cases hk : k = i
    · subst hk
      have := cost_advance_lt (j := j) hactive
      rw [List.count_cons_self]
      omega
    · have := cost_advance_le j f k
      rw [List.count_cons_of_ne hk]
      omega

/-- Every schedule that gives each worker enough turns brings the batch to its end. -/
theorem exists_turns_isDone (j : Job) : ∃ turns, ∀ schedule : List Nat,
    (∀ i < workerCount j.settings j.sources, turns ≤ schedule.count i) →
      (j.runSchedule schedule).isDone := by
  let f := Floor.opening (workerCount j.settings j.sources)
  refine ⟨j.cost f + 1, fun schedule hturns => Floor.isDone_iff.2 fun i hi => ?_⟩
  obtain ⟨⟨w, hw, _⟩, hcost⟩ := cost_foldl_advance schedule f hi
  have hlength : i < workerCount j.settings j.sources := by
    obtain ⟨hlt, _⟩ := List.getElem?_eq_some_iff.1 hw
    simpa [f, Floor.opening] using hlt
  have := hturns i hlength
  omega

end Job

end AffiliateLinks.Batch
