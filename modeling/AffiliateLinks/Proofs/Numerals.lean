import AffiliateLinks.Text.Numeral
import Mathlib.Tactic.Lemma
import Mathlib.Tactic.SplitIfs

/-!
# Numerals that are written are read back

Classes of ASCII characters are bounds on code points, where linear arithmetic decides about them.
Main statement: a numeral stands for the number that it was written for, in every base that there are
digits for.
-/

namespace AffiliateLinks

namespace Ascii

lemma le_iff_toNat_le {c d : Char} : c.val ≤ d.val ↔ c.toNat ≤ d.toNat := UInt32.le_iff_toNat_le

lemma eq_of_toNat_eq {c d : Char} (h : c.toNat = d.toNat) : c = d :=
  Char.ext (UInt32.toNat_inj.1 h)

lemma isUpper_iff {c : Char} : c.isUpper = true ↔ 65 ≤ c.toNat ∧ c.toNat ≤ 90 := by
  change decide (_ ∧ _) = true ↔ _
  rw [decide_eq_true_eq, ge_iff_le, le_iff_toNat_le, le_iff_toNat_le]
  exact Iff.rfl

lemma isLower_iff {c : Char} : c.isLower = true ↔ 97 ≤ c.toNat ∧ c.toNat ≤ 122 := by
  change (decide _ && decide _) = true ↔ _
  rw [Bool.and_eq_true, decide_eq_true_eq, decide_eq_true_eq, ge_iff_le, le_iff_toNat_le,
    le_iff_toNat_le]
  exact Iff.rfl

lemma isDigit_iff {c : Char} : c.isDigit = true ↔ 48 ≤ c.toNat ∧ c.toNat ≤ 57 := by
  simp only [Char.isDigit, ge_iff_le, le_iff_toNat_le, Bool.and_eq_true, decide_eq_true_eq]
  exact Iff.rfl

lemma isAlpha_iff {c : Char} : c.isAlpha = true ↔
    65 ≤ c.toNat ∧ c.toNat ≤ 90 ∨ 97 ≤ c.toNat ∧ c.toNat ≤ 122 := by
  change (c.isUpper || c.isLower) = true ↔ _
  rw [Bool.or_eq_true, isUpper_iff, isLower_iff]

lemma isAlphanum_iff {c : Char} : c.isAlphanum = true ↔
    (65 ≤ c.toNat ∧ c.toNat ≤ 90 ∨ 97 ≤ c.toNat ∧ c.toNat ≤ 122) ∨
      48 ≤ c.toNat ∧ c.toNat ≤ 57 := by
  rw [Char.isAlphanum, Bool.or_eq_true, isAlpha_iff, isDigit_iff]

lemma toNat_toLower (c : Char) :
    c.toLower.toNat = if 65 ≤ c.toNat ∧ c.toNat ≤ 90 then c.toNat + 32 else c.toNat := by
  unfold Char.toLower
  by_cases h : c.val ≥ 'A'.val ∧ c.val ≤ 'Z'.val
  · have hn : 65 ≤ c.toNat ∧ c.toNat ≤ 90 := ⟨le_iff_toNat_le.1 h.1, le_iff_toNat_le.1 h.2⟩
    rw [dif_pos h, if_pos hn]
    change (c.val + ('a'.val - 'A'.val)).toNat = c.val.toNat + 32
    have hd : ('a'.val - 'A'.val).toNat = 32 := by decide
    rw [UInt32.toNat_add, hd]
    have : c.val.toNat ≤ 90 := hn.2
    omega
  · have hn : ¬(65 ≤ c.toNat ∧ c.toNat ≤ 90) := fun hn =>
      h ⟨le_iff_toNat_le.2 hn.1, le_iff_toNat_le.2 hn.2⟩
    rw [dif_neg h, if_neg hn]

/-- A character that becomes the letter `l` is `l` or its capital. -/
lemma toLower_eq_iff {c l : Char} (hl : 97 ≤ l.toNat ∧ l.toNat ≤ 122) :
    c.toLower = l ↔ c = l ∨ c.toNat + 32 = l.toNat := by
  constructor
  · intro h
    have hn := toNat_toLower c
    rw [h] at hn
    by_cases hc : 65 ≤ c.toNat ∧ c.toNat ≤ 90
    · rw [if_pos hc] at hn
      exact .inr hn.symm
    · rw [if_neg hc] at hn
      exact .inl (eq_of_toNat_eq hn.symm)
  · rintro (rfl | h)
    · apply eq_of_toNat_eq
      rw [toNat_toLower, if_neg (by omega)]
    · apply eq_of_toNat_eq
      rw [toNat_toLower, if_pos (by omega), h]

end Ascii

namespace Text

lemma isBlank_bounds {c : Char} (h : isBlank c = true) : c.toNat ≤ 0x20 ∨ 0x85 ≤ c.toNat := by
  simp only [isBlank, blankRuns, List.any_cons, List.any_nil, Bool.or_false, Bool.or_eq_true,
    Bool.and_eq_true, decide_eq_true_eq] at h
  omega

/-- The characters of a closed text are looked at one by one. -/
lemma forall_of_all {p : Char → Prop} [DecidablePred p] {t : Text}
    (h : t.all (fun c => decide (p c)) = true) : ∀ c ∈ t, p c := by
  intro c hc
  exact of_decide_eq_true (List.all_eq_true.1 h c hc)

end Text

namespace Numeral

variable {base n : Nat}

lemma digitValue?_digit (h : n < 36) : digitValue? (digit n) = some n := by
  have hall : ∀ n < 36, digitValue? (digit n) = some n := by decide
  exact hall n h

lemma isDigit_digit (hn : n < base) (hbase : base ≤ 36) : isDigit base (digit n) = true := by
  rw [isDigit, digitValue?_digit (by omega)]
  exact decide_eq_true hn

lemma isDigit_ten_iff {c : Char} : isDigit 10 c = true ↔ 48 ≤ c.toNat ∧ c.toNat ≤ 57 := by
  unfold isDigit digitValue?
  simp only [Char.le_def, Ascii.le_iff_toNat_le, Char.reduceToNat]
  split_ifs with h₁ h₂ h₃
  · simp only [decide_eq_true_eq]
    omega
  · simp only [decide_eq_true_eq]
    omega
  · simp only [decide_eq_true_eq]
    omega
  · exact iff_of_false not_false h₁

lemma write_of_lt (h : n < base) : write base n = [digit n] := by
  rw [write, if_pos (.inl h)]

lemma write_of_le (hbase : 2 ≤ base) (h : base ≤ n) :
    write base n = write base (n / base) ++ [digit (n % base)] := by
  rw [write, if_neg (by omega)]

/-- A numeral is its last digit, or has the numeral of the rest in front of it. -/
theorem write_induction {motive : Nat → Text → Prop} (hbase : 2 ≤ base)
    (last : ∀ n, n < base → motive n [digit n])
    (more : ∀ n t, base ≤ n → motive (n / base) t → motive n (t ++ [digit (n % base)])) (n : Nat) :
    motive n (write base n) := by
  induction n using Nat.strongRecOn with
  | ind n ih =>
    by_cases h : n < base
    · rw [write_of_lt h]
      exact last n h
    · rw [write_of_le hbase (by omega)]
      exact more n _ (by omega) (ih _ (Nat.div_lt_self (by omega) (by omega)))

lemma write_ne_nil (hbase : 2 ≤ base) (n : Nat) : write base n ≠ [] := by
  induction n using write_induction hbase with
  | last n hn => exact List.cons_ne_nil _ _
  | more n t hn ih => exact List.append_ne_nil_of_right_ne_nil _ (List.cons_ne_nil _ _)

lemma isDigit_of_mem_write (hbase : 2 ≤ base ∧ base ≤ 36) (n : Nat) :
    ∀ c ∈ write base n, isDigit base c = true := by
  have hdigit (n : Nat) (hn : n < base) : ∀ c ∈ [digit n], isDigit base c = true := by
    intro c hc
    rw [List.mem_singleton.1 hc]
    exact isDigit_digit hn hbase.2
  induction n using write_induction hbase.1 with
  | last n hn => exact hdigit n hn
  | more n t hn ih =>
    exact List.forall_mem_append.2 ⟨ih, hdigit _ (Nat.mod_lt _ (by omega))⟩

lemma value_append (base : Nat) (ds : Text) (c : Char) :
    value base (ds ++ [c]) = value base ds * base + (digitValue? c).getD 0 := by
  rw [value, List.foldl_append]
  rfl

lemma value_write (hbase : 2 ≤ base ∧ base ≤ 36) (n : Nat) : value base (write base n) = n := by
  induction n using write_induction hbase.1 with
  | last n hn =>
    rw [← List.nil_append [digit n], value_append, digitValue?_digit (by omega), Option.getD_some,
      value, List.foldl_nil, Nat.zero_mul, Nat.zero_add]
  | more n t hn ih =>
    have hmod : n % base < base := Nat.mod_lt _ (by omega)
    rw [value_append, ih, digitValue?_digit (by omega), Option.getD_some, Nat.div_add_mod']

theorem read?_write (hbase : 2 ≤ base ∧ base ≤ 36) (n : Nat) :
    read? base (write base n) = some n := by
  have hempty : (write base n).isEmpty = false := by
    rw [List.isEmpty_eq_false_iff]
    exact write_ne_nil hbase.1 n
  have hall : (write base n).all (isDigit base) = true :=
    List.all_eq_true.2 (isDigit_of_mem_write hbase n)
  rw [read?, hempty, hall, value_write hbase]
  rfl

lemma write_injective (hbase : 2 ≤ base ∧ base ≤ 36) {m n : Nat} (h : write base m = write base n) :
    m = n := by
  rw [← value_write hbase m, h, value_write hbase]

/-- A numeral of at most so many digits. -/
lemma length_write_le (hbase : 2 ≤ base) (k : Nat) (h : n < Nat.pow base (k + 1)) :
    (write base n).length ≤ k + 1 := by
  induction k generalizing n with
  | zero =>
    rw [write_of_lt (Nat.lt_of_lt_of_eq h (Nat.pow_one base))]
    exact Nat.le_refl 1
  | succ k ih =>
    by_cases hn : n < base
    · rw [write_of_lt hn]
      exact Nat.succ_le_succ (Nat.zero_le _)
    · have hdiv : n / base < Nat.pow base (k + 1) := by
        rw [Nat.div_lt_iff_lt_mul (by omega)]
        exact h
      rw [write_of_le hbase (by omega), List.length_append]
      exact Nat.succ_le_succ (ih hdiv)

end Numeral

end AffiliateLinks
