import AffiliateLinks.Proofs.Numerals
import AffiliateLinks.Ron.Token
import AffiliateLinks.Text.Quoted
import Mathlib.Data.List.TakeWhile
import Mathlib.Tactic.SplitIfs

/-!
# Tokens of RON that are written are read back

What a part of a text is read as does not depend on what follows it, if the part ends in punctuation
or a quote. So the tokens of a text are those of its parts, one after the other.
-/

namespace AffiliateLinks

namespace Numeral

lemma isDigit_mono {base base' : Nat} {c : Char} (hbase : base ≤ base') (h : isDigit base c = true) :
    isDigit base' c = true := by
  unfold isDigit at h ⊢
  cases hc : digitValue? c with
  | none =>
    rw [hc] at h
    cases h
  | some n =>
    rw [hc] at h
    exact decide_eq_true (Nat.lt_of_lt_of_le (of_decide_eq_true h) hbase)

lemma bounds_of_mem_decimal {n : Nat} {c : Char} (h : c ∈ decimal n) :
    48 ≤ c.toNat ∧ c.toNat ≤ 57 :=
  isDigit_ten_iff.1 (isDigit_of_mem_write ⟨by omega, by omega⟩ n c h)

end Numeral

namespace Ron

namespace Number

open Numeral (decimal)

/-- A text that begins with a digit and holds nothing else. -/
lemma exists_decimal (n : Nat) : ∃ c t, decimal n = c :: t ∧ ∀ d ∈ c :: t,
    48 ≤ d.toNat ∧ d.toNat ≤ 57 := by
  cases h : decimal n with
  | nil => exact absurd h (Numeral.write_ne_nil (by omega) n)
  | cons c t => exact ⟨c, t, rfl, fun d hd => Numeral.bounds_of_mem_decimal (h ▸ hd)⟩

lemma ne_of_bounds {c d : Char} (h : 48 ≤ c.toNat ∧ c.toNat ≤ 57)
    (hd : d.toNat < 48 ∨ 57 < d.toNat) : c ≠ d := by
  rintro rfl
  omega

lemma cutSign_decimal (n : Nat) : cutSign (decimal n) = (false, decimal n) := by
  obtain ⟨c, t, ht, h⟩ := exists_decimal n
  have hc := h c List.mem_cons_self
  rw [ht]
  unfold cutSign
  split
  · next heq => exact absurd (List.cons_eq_cons.1 heq).1 (ne_of_bounds hc (by decide))
  · next heq => exact absurd (List.cons_eq_cons.1 heq).1 (ne_of_bounds hc (by decide))
  · rfl

lemma cutBase_decimal (n : Nat) : cutBase (decimal n) = (10, decimal n) := by
  obtain ⟨c, t, ht, h⟩ := exists_decimal n
  have hletter {d : Char} {r : Text} (heq : c :: t = '0' :: d :: r) (hd : 57 < d.toNat) : False := by
    have hmem : d ∈ c :: t := by
      rw [heq]
      exact List.mem_cons_of_mem _ List.mem_cons_self
    have := h d hmem
    omega
  rw [ht]
  unfold cutBase
  split
  · next heq => exact (hletter heq (by decide)).elim
  · next heq => exact (hletter heq (by decide)).elim
  · next heq => exact (hletter heq (by decide)).elim
  · rfl

theorem integer?_decimal (n : Nat) : integer? (decimal n) = some (n, []) := by
  obtain ⟨c, t, ht, h⟩ := exists_decimal n
  have hpart : ∀ d ∈ decimal n, (Numeral.isDigit 16 d || decide (d = '_')) = true := by
    intro d hd
    rw [Numeral.isDigit_mono (by omega)
      (Numeral.isDigit_of_mem_write ⟨by omega, by omega⟩ n d hd), Bool.true_or]
  have hfirst : (decimal n).head? ≠ some '_' := by
    rw [ht, List.head?_cons, Ne, Option.some.injEq]
    exact ne_of_bounds (h c List.mem_cons_self) (by decide)
  have hfilter : (decimal n).filter (· ≠ '_') = decimal n := by
    refine List.filter_eq_self.2 fun d hd => decide_eq_true ?_
    exact ne_of_bounds (Numeral.bounds_of_mem_decimal hd) (by decide)
  unfold integer?
  rw [cutBase_decimal]
  simp only [List.takeWhile_eq_self_iff.2 hpart, List.dropWhile_eq_nil_iff.2 hpart, hfilter, hfirst,
    decide_false, List.isEmpty_nil, Bool.true_or, Bool.not_true, Bool.or_self, Bool.false_eq_true,
    if_false]
  rw [decimal, Numeral.read?_write ⟨by omega, by omega⟩]
  rfl

lemma isNumber_decimal (n : Nat) : isNumber (decimal n) = true := by
  unfold isNumber
  rw [cutSign_decimal]
  dsimp only
  rw [integer?_decimal, Option.isSome_some, Bool.true_or, Bool.true_or]

theorem counter?_decimal {n : Nat} (h : n < Nat.pow 2 64) : counter? (decimal n) = some n := by
  unfold counter?
  rw [cutSign_decimal]
  dsimp only
  rw [integer?_decimal]
  simp [h]

end Number

namespace Token

/-- Reading a text gives these tokens. -/
def Lexes (t : Text) (ts : List Token) : Prop := ∀ fuel, t.length ≤ fuel → readAll fuel t = some ts

namespace Lexes

variable {c : Char} {t rest : Text} {ts : List Token} {u : Token}

lemma nil : Lexes [] [] := by
  intro fuel _
  cases fuel with
  | zero => rfl
  | succ fuel => rfl

lemma readAll_cons (hslash : c ≠ '/') (fuel : Nat) (t : Text) : readAll (fuel + 1) (c :: t) =
    if isSpace c then readAll fuel t
    else (next? (c :: t)).bind fun p => (readAll fuel p.2).bind fun ts => some (p.1 :: ts) := by
  rw [readAll]
  · rfl
  · exact fun r hc _ => hslash hc
  · exact fun r hc _ => hslash hc

lemma space (hc : isSpace c = true) (h : Lexes t ts) : Lexes (c :: t) ts := by
  have hslash : c ≠ '/' := by
    rintro rfl
    exact absurd hc (by decide)
  intro fuel hfuel
  cases fuel with
  | zero => cases hfuel
  | succ fuel =>
    rw [readAll_cons hslash, if_pos hc]
    exact h fuel (Nat.le_of_succ_le_succ hfuel)

lemma token (hc : isSpace c = false) (hslash : c ≠ '/') (hnext : next? (c :: t) = some (u, rest))
    (hlength : rest.length ≤ t.length) (h : Lexes rest ts) : Lexes (c :: t) (u :: ts) := by
  intro fuel hfuel
  cases fuel with
  | zero => cases hfuel
  | succ fuel =>
    rw [readAll_cons hslash, if_neg (Bool.eq_false_iff.1 hc), hnext, Option.bind_some,
      h fuel (Nat.le_trans hlength (Nat.le_of_succ_le_succ hfuel)), Option.bind_some]

end Lexes

lemma isSpace_bounds {c : Char} (h : isSpace c = true) : c.toNat ≤ 0x20 ∨ 0x85 ≤ c.toNat := by
  simp only [isSpace, Bool.or_eq_true, Bool.and_eq_true, decide_eq_true_eq] at h
  rcases h with ((((((rfl | h) | rfl) | rfl) | rfl) | rfl) | rfl)
  · exact .inl (by decide)
  · exact .inl (by omega)
  all_goals exact .inr (by decide)

lemma isPunct_bounds {c : Char} (h : isPunct c = true) :
    c.toNat < 48 ∨ 58 ≤ c.toNat ∧ c.toNat ≤ 93 ∨ 123 ≤ c.toNat := by
  have hchars : ∀ d ∈ "()[]\x7b\x7d:,#!".toList,
      d.toNat < 48 ∨ 58 ≤ d.toNat ∧ d.toNat ≤ 93 ∨ 123 ≤ d.toNat := Text.forall_of_all (by decide)
  exact hchars c (List.contains_iff_mem.1 h)

/-- The characters that numbers and plain words begin with. -/
lemma isSpace_of_bounds {c : Char} (h : 48 ≤ c.toNat ∧ c.toNat ≤ 57 ∨ 97 ≤ c.toNat ∧ c.toNat ≤ 122) :
    isSpace c = false ∧ isPunct c = false ∧ c ≠ '/' ∧ c ≠ '"' ∧ c ≠ '\'' := by
  have hne {d : Char} (hd : d.toNat < 48) : c ≠ d := by
    rintro rfl
    omega
  refine ⟨?_, ?_, hne (by decide), hne (by decide), hne (by decide)⟩
  · rw [Bool.eq_false_iff]
    intro hc
    have := isSpace_bounds hc
    omega
  · rw [Bool.eq_false_iff]
    intro hc
    have := isPunct_bounds hc
    omega

lemma isNumberStart_iff {c : Char} : (c.isDigit || c = '+' || c = '-' || c = '.') = true ↔
    48 ≤ c.toNat ∧ c.toNat ≤ 57 ∨ c = '+' ∨ c = '-' ∨ c = '.' := by
  simp only [Bool.or_eq_true, decide_eq_true_eq, Ascii.isDigit_iff, or_assoc]

lemma next?_cons {c : Char} (hquote : c ≠ '"') (hmark : c ≠ '\'') (hb : c ≠ 'b') (hr : c ≠ 'r')
    (t : Text) : next? (c :: t) =
      if isPunct c then some (punct c, t)
      else if c.isDigit || c = '+' || c = '-' || c = '.' then
        if Number.isNumber (c :: (spanNumber false t).1) then
          some (number (c :: (spanNumber false t).1), (spanNumber false t).2)
        else none
      else if Text.startsIdentifier c then
        some (word (c :: t.takeWhile Text.continuesIdentifier),
          t.drop (t.takeWhile Text.continuesIdentifier).length)
      else none := by
  unfold next?
  split
  case h_1 heq => cases heq
  case h_12 heq =>
    cases heq
    rfl
  all_goals
    next heq => exact absurd (List.cons_eq_cons.1 heq).1 ‹_›

/-- Whatever follows the text, the text is read as these tokens. -/
def LexesTo (s : Text) (us : List Token) : Prop := ∀ t ts, Lexes t ts → Lexes (s ++ t) (us ++ ts)

namespace LexesTo

variable {s s' : Text} {us us' : List Token} {c : Char}

lemma nil : LexesTo [] [] := fun _ _ h => h

lemma append (h : LexesTo s us) (h' : LexesTo s' us') : LexesTo (s ++ s') (us ++ us') := by
  intro t ts ht
  rw [List.append_assoc, List.append_assoc]
  exact h _ _ (h' t ts ht)

lemma lexes (h : LexesTo s us) : Lexes s us := by
  have := h [] [] .nil
  rwa [List.append_nil, List.append_nil] at this

lemma space (hc : isSpace c = true) : LexesTo [c] [] := fun _ _ h => .space hc h

lemma indent (depth : Nat) : LexesTo (List.replicate depth ' ') [] := by
  induction depth with
  | zero => exact nil
  | succ depth ih =>
    rw [List.replicate_succ]
    exact append (space rfl) ih

lemma punct (hc : isPunct c = true) : LexesTo [c] [.punct c] := by
  have hchars : ∀ d ∈ "()[]\x7b\x7d:,#!".toList, isSpace d = false ∧ d ≠ '/' ∧ d ≠ '"' ∧
      d ≠ '\'' ∧ d ≠ 'b' ∧ d ≠ 'r' := Text.forall_of_all (by decide)
  obtain ⟨hspace, hslash, hquote, hmark, hb, hr⟩ := hchars c (List.contains_iff_mem.1 hc)
  intro t ts h
  refine .token hspace hslash ?_ (Nat.le_refl _) h
  exact (next?_cons hquote hmark hb hr t).trans (if_pos hc)

end LexesTo

/-- A word in small letters that cannot be taken for the beginning of a byte or raw string. -/
def isPlainWord : Text → Bool
  | [] => false
  | c :: t => c ≠ 'b' && c ≠ 'r' && (c :: t).all Char.isLower

lemma takeWhile_append_cons {p : Char → Bool} {t r : Text} {d : Char} (ht : ∀ c ∈ t, p c = true)
    (hd : p d = false) : (t ++ d :: r).takeWhile p = t := by
  rw [List.takeWhile_append_of_pos ht, List.takeWhile_cons_of_neg (Bool.eq_false_iff.1 hd),
    List.append_nil]

lemma LexesTo.word {t : Text} (h : isPlainWord t = true) :
    LexesTo (t ++ [':']) [.word t, .punct ':'] := by
  cases t with
  | nil => cases h
  | cons c t =>
    simp only [isPlainWord, Bool.and_eq_true, decide_eq_true_eq, List.all_cons] at h
    obtain ⟨⟨hb, hr⟩, hc, ht⟩ := h
    rw [Ascii.isLower_iff] at hc
    obtain ⟨hspace, hpunct, hslash, hquote, hmark⟩ := isSpace_of_bounds (.inr hc)
    have hnumber : ¬(c.isDigit || c = '+' || c = '-' || c = '.') = true := by
      rw [isNumberStart_iff]
      rintro (h | rfl | rfl | rfl)
      · omega
      all_goals exact absurd hc (by decide)
    have hstarts : Text.startsIdentifier c = true := by
      rw [Text.startsIdentifier, if_pos (by omega), Bool.or_eq_true, Ascii.isAlpha_iff]
      exact .inl (.inr hc)
    have hword (r : Text) : (t ++ ':' :: r).takeWhile Text.continuesIdentifier = t := by
      refine takeWhile_append_cons (fun d hd => ?_) (by decide)
      have := Ascii.isLower_iff.1 (List.all_eq_true.1 ht d hd)
      rw [Text.continuesIdentifier, if_pos (by omega), Bool.or_eq_true, Ascii.isAlphanum_iff]
      exact .inl (.inl (.inr this))
    intro r ts hrest
    rw [List.append_assoc, List.cons_append]
    refine .token hspace hslash ?_ ?_ (LexesTo.punct (by decide) r ts hrest)
    · refine (next?_cons hquote hmark hb hr _).trans ?_
      rw [if_neg (Bool.eq_false_iff.1 hpunct), if_neg hnumber, if_pos hstarts, List.cons_append,
        List.nil_append, hword, List.drop_left]
    · exact (List.suffix_append t _).length_le

lemma spanNumber_append {t r : Text} {d : Char} (ht : ∀ c ∈ t, 48 ≤ c.toNat ∧ c.toNat ≤ 57)
    (hd : isNumberChar d = false) : spanNumber false (t ++ d :: r) = (t, d :: r) := by
  induction t with
  | nil =>
    rw [List.nil_append, spanNumber, hd]
    rfl
  | cons c t ih =>
    have hc := ht c List.mem_cons_self
    have hletter {d : Char} (hd : 57 < d.toNat) : c ≠ d := by
      rintro rfl
      omega
    have hnumber : isNumberChar c = true := by
      rw [isNumberChar, Text.continuesIdentifier, if_pos (by omega), Bool.or_eq_true, Bool.or_eq_true,
        Ascii.isAlphanum_iff]
      exact .inl (.inl (.inr hc))
    rw [List.cons_append, spanNumber, hnumber, Bool.true_or, if_pos rfl,
      decide_eq_false (hletter (by decide)), decide_eq_false (hletter (by decide)), Bool.or_self,
      ih fun c hc => ht c (List.mem_cons_of_mem _ hc)]

lemma LexesTo.number (n : Nat) :
    LexesTo (Numeral.decimal n ++ [',']) [.number (Numeral.decimal n), .punct ','] := by
  obtain ⟨c, t, hn, h⟩ := Number.exists_decimal n
  have hnumber := Number.isNumber_decimal n
  rw [hn] at hnumber ⊢
  have hc := h c List.mem_cons_self
  have hletter {d : Char} (hd : 57 < d.toNat) : c ≠ d := by
    rintro rfl
    omega
  obtain ⟨hspace, hpunct, hslash, hquote, hmark⟩ := isSpace_of_bounds (.inl hc)
  intro r ts hrest
  rw [List.append_assoc, List.cons_append]
  refine .token hspace hslash ?_ ?_ (LexesTo.punct (by decide) r ts hrest)
  · refine (next?_cons hquote hmark (hletter (by decide)) (hletter (by decide)) _).trans ?_
    have hspan : spanNumber false (t ++ ([','] ++ r)) = (t, [','] ++ r) :=
      spanNumber_append (fun d hd => h d (List.mem_cons_of_mem _ hd)) (by decide)
    rw [if_neg (Bool.eq_false_iff.1 hpunct), if_pos (isNumberStart_iff.2 (.inl hc)), hspan,
      if_pos hnumber]
  · exact (List.suffix_append t _).length_le

lemma spanHex_append {ds r : Text} {d : Char} {limit : Nat} (hlimit : ds.length ≤ limit)
    (hds : ∀ c ∈ ds, Numeral.isDigit 16 c = true) (hd : Numeral.isDigit 16 d = false) :
    spanHex limit (ds ++ d :: r) = (ds, d :: r) := by
  induction ds generalizing limit with
  | nil =>
    cases limit with
    | zero => rfl
    | succ limit =>
      rw [List.nil_append, spanHex, hd]
      rfl
  | cons c ds ih =>
    cases limit with
    | zero => cases hlimit
    | succ limit =>
      rw [List.cons_append, spanHex, hds c List.mem_cons_self, if_pos rfl,
        ih (Nat.le_of_succ_le_succ hlimit) fun c hc => hds c (List.mem_cons_of_mem _ hc)]

lemma escape?_code {ds t : Text} (h : spanHex 6 (ds ++ '\x7d' :: t) = (ds, '\x7d' :: t)) :
    escape? ('u' :: '\x7b' :: (ds ++ '\x7d' :: t)) =
      (Numeral.read? 16 ds).bind fun n => (charOfNat? n).bind fun c => some ([c], t) := by
  rw [escape?, h]
  rfl

/-- Every escape is read as the character that it was written for. -/
lemma escape?_escape (c : Char) (t : Text) :
    ∃ e, Quoted.escape c = '\\' :: e ∧ escape? (e ++ t) = some ([c], t) := by
  unfold Quoted.escape
  split
  case h_8 =>
    refine ⟨['u', '\x7b'] ++ Numeral.hex c.toNat ++ ['\x7d'], rfl, ?_⟩
    have hvalid : c.toNat.isValidChar := c.valid
    have hlimit : c.toNat < Nat.pow 16 6 := by
      have : c.toNat < 0xD800 ∨ 0xDFFF < c.toNat ∧ c.toNat < 0x110000 := c.valid
      exact Nat.lt_of_lt_of_le (by omega : c.toNat < 0x110000) (by decide)
    have hspan : spanHex 6 (Numeral.hex c.toNat ++ '\x7d' :: t) = (Numeral.hex c.toNat, '\x7d' :: t) :=
      spanHex_append (Numeral.length_write_le (by omega) 5 hlimit)
        (Numeral.isDigit_of_mem_write ⟨by omega, by omega⟩ _) (by decide)
    rw [List.append_assoc, List.append_assoc]
    refine (escape?_code hspan).trans ?_
    rw [Numeral.hex, Numeral.read?_write ⟨by omega, by omega⟩, Option.bind_some, charOfNat?,
      if_pos hvalid, Option.bind_some, Char.ofNat_toNat]
  all_goals exact ⟨_, rfl, rfl⟩

lemma stringBody?_append (s r : Text) {fuel : Nat} (h : (s.flatMap Quoted.char).length < fuel) :
    stringBody? fuel (s.flatMap Quoted.char ++ '"' :: r) = some (s, r) := by
  induction s generalizing fuel with
  | nil =>
    cases fuel with
    | zero => cases h
    | succ fuel => rfl
  | cons c s ih =>
    cases fuel with
    | zero => cases h
    | succ fuel =>
      rw [List.flatMap_cons, List.length_append] at h
      rw [List.flatMap_cons, List.append_assoc]
      cases hlit : Quoted.isLiteral c with
      | true =>
        have hchar : Quoted.char c = [c] := if_pos hlit
        simp only [Quoted.isLiteral, Bool.and_eq_true, decide_eq_true_eq] at hlit
        rw [hchar, List.length_singleton] at h
        rw [hchar, List.cons_append, List.nil_append, stringBody?, ih (by omega)]
        · rfl
        · exact hlit.1.1.1
        · exact hlit.1.2
      | false =>
        have hchar : Quoted.char c = Quoted.escape c := if_neg (Bool.eq_false_iff.1 hlit)
        obtain ⟨e, he, hescape⟩ := escape?_escape c (s.flatMap Quoted.char ++ '"' :: r)
        rw [hchar, he, List.length_cons] at h
        rw [hchar, he, List.cons_append, stringBody?, hescape]
        change ((stringBody? fuel (s.flatMap Quoted.char ++ '"' :: r)).bind fun p =>
          some ([c] ++ p.1, p.2)) = some (c :: s, r)
        rw [ih (by omega)]
        rfl

lemma LexesTo.string (s : Text) : LexesTo (Quoted.strict s) [.string s] := by
  intro r ts hrest
  have hbody : stringBody? (s.flatMap Quoted.char ++ '"' :: r).length.succ
      (s.flatMap Quoted.char ++ '"' :: r) = some (s, r) := by
    refine stringBody?_append s r ?_
    rw [List.length_append]
    omega
  have hnext : next? ('"' :: (s.flatMap Quoted.char ++ '"' :: r)) = some (.string s, r) :=
    congrArg (Option.map fun p : Text × Text => (Token.string p.1, p.2)) hbody
  rw [Quoted.strict, Quoted.enclose, List.append_assoc, List.cons_append]
  refine .token (by decide) (by decide) hnext ?_ hrest
  rw [← List.append_assoc]
  exact (List.suffix_append _ r).length_le

end Token

end Ron

end AffiliateLinks
