import AffiliateLinks.Files.System
import Mathlib.Tactic.Lemma

/-!
# Steps that may fail

What comes of several steps, in the terms of what comes of each of them.
-/

namespace AffiliateLinks

lemma bind_eq_ok_iff {ε α β : Type} {x : Except ε α} {f : α → Except ε β} {b : β} :
    x.bind f = .ok b ↔ ∃ a, x = .ok a ∧ f a = .ok b := by
  cases x with
  | error e => simp [Except.bind]
  | ok a => simp [Except.bind]

/-- All steps give something exactly if each of them does. -/
lemma mapM_eq_some_iff {α β : Type} {f : α → Option β} {as : List α} {bs : List β} :
    as.mapM f = some bs ↔ as.map f = bs.map some := by
  induction as generalizing bs with
  | nil => cases bs <;> simp
  | cons a as ih =>
    cases bs with
    | nil => simp [Option.bind_eq_some_iff]
    | cons b bs => simp [Option.bind_eq_some_iff, ← ih]

lemma mem_of_mapM_eq_some {α β : Type} {f : α → Option β} {as : List α} {bs : List β}
    (h : as.mapM f = some bs) {b : β} (hb : b ∈ bs) : ∃ a ∈ as, f a = some b := by
  have hmem : some b ∈ bs.map some := List.mem_map_of_mem hb
  rwa [← mapM_eq_some_iff.1 h, List.mem_map] at hmem

lemma isSome_of_mapM_eq_some {α β : Type} {f : α → Option β} {as : List α} {bs : List β}
    (h : as.mapM f = some bs) {a : α} (ha : a ∈ as) : (f a).isSome = true := by
  have hmem : f a ∈ as.map f := List.mem_map_of_mem ha
  rw [mapM_eq_some_iff.1 h, List.mem_map] at hmem
  obtain ⟨b, -, hb⟩ := hmem
  simp [← hb]

namespace Work

variable {ε ε' α β : Type} {w : Work ε α} {f : α → Work ε β} {fs fs' : FileSystem} {a : α} {e : ε}

/-- What comes of work on a file system, apart from what is logged. -/
def result (w : Work ε α) (fs : FileSystem) : Except ε α × FileSystem := (w.run fs).value

lemma result_perform (step : FileSystem → Except ε α × FileSystem) :
    (perform step).result fs = step fs := rfl

lemma result_inspect (look : FileSystem → Except ε α) :
    (inspect look).result fs = (look fs, fs) := rfl

lemma result_tell (level : Level) (component : Component) (text : Text) :
    (tell level component text : Work ε Unit).result fs = (.ok (), fs) := rfl

lemma result_mapError (g : ε → ε') (w : Work ε α) :
    (mapError g w).result fs = ((w.result fs).1.mapError g, (w.result fs).2) := rfl

lemma result_bind (w : Work ε α) (f : α → Work ε β) :
    (w >>= f).result fs = match w.result fs with
      | (.ok a, fs) => (f a).result fs
      | (.error e, fs) => (.error e, fs) := by
  change ((ExceptT.bindCont f (w.run fs).value.1).run (w.run fs).value.2).value = _
  unfold result
  cases (w.run fs).value with
  | mk x fs =>
    cases x with
    | ok a => rfl
    | error e => rfl

lemma result_bind_of_ok (h : w.result fs = (.ok a, fs')) :
    (w >>= f).result fs = (f a).result fs' := by rw [result_bind, h]

lemma result_bind_of_error (h : w.result fs = (.error e, fs')) :
    (w >>= f).result fs = (.error e, fs') := by rw [result_bind, h]

/-- Two steps succeed if the first does and the second does after it. -/
lemma result_bind_eq_ok_iff {b : β} : (w >>= f).result fs = (.ok b, fs') ↔
    ∃ a fs₁, w.result fs = (.ok a, fs₁) ∧ (f a).result fs₁ = (.ok b, fs') := by
  rw [result_bind]
  constructor
  · intro h
    split at h
    · next a fs₁ hw => exact ⟨a, fs₁, hw, h⟩
    · cases h
  · rintro ⟨a, fs₁, hw, hf⟩
    rw [hw]
    exact hf

variable {v : Work ε' α} {g : ε' → ε} {e' : ε'}

lemma result_mapError_bind_of_ok (h : v.result fs = (.ok a, fs')) :
    (mapError g v >>= f).result fs = (f a).result fs' :=
  result_bind_of_ok (by rw [result_mapError, h]; rfl)

lemma result_mapError_bind_of_error (h : v.result fs = (.error e', fs')) :
    (mapError g v >>= f).result fs = (.error (g e'), fs') :=
  result_bind_of_error (by rw [result_mapError, h]; rfl)

end Work

end AffiliateLinks
