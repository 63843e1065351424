import AffiliateLinks.Proofs.Steps
import AffiliateLinks.Text.Utf8
import Mathlib.Tactic.Lemma
import Mathlib.Tactic.SplitIfs

/-!
# UTF-8 that is written is read back

Main statements: the bytes of a text are well-formed and stand for that text, and reading leniently
commutes with cutting at an ASCII character.
-/

namespace AffiliateLinks.Utf8

section Next

variable {b b₁ b₂ b₃ : UInt8} {rest : Bytes} {low high bits n : Nat}

lemma next_ascii (h : b.toNat < 0x80) (rest : Bytes) :
    next b rest = (.char (Char.ofNat b.toNat), rest) := by
  unfold next
  rw [if_pos h]

lemma next_two (hb : ¬b.toNat < 0x80) (hlead : lead? b.toNat = some ⟨low, high, bits, 0⟩)
    (h₁ : low ≤ b₁.toNat ∧ b₁.toNat ≤ high) :
    next b (b₁ :: rest) = (.char (Char.ofNat (extend bits b₁)), rest) := by
  unfold next
  rw [if_neg hb]
  simp only [hlead, if_pos h₁]

lemma next_three (hb : ¬b.toNat < 0x80) (hlead : lead? b.toNat = some ⟨low, high, bits, 1⟩)
    (h₁ : low ≤ b₁.toNat ∧ b₁.toNat ≤ high) (h₂ : isTail b₂ = true) :
    next b (b₁ :: b₂ :: rest) = (.char (Char.ofNat (extend (extend bits b₁) b₂)), rest) := by
  unfold next
  rw [if_neg hb]
  simp only [hlead, if_pos h₁, if_pos h₂]

lemma next_four (hb : ¬b.toNat < 0x80) (hlead : lead? b.toNat = some ⟨low, high, bits, 2⟩)
    (h₁ : low ≤ b₁.toNat ∧ b₁.toNat ≤ high) (h₂ : isTail b₂ = true) (h₃ : isTail b₃ = true) :
    next b (b₁ :: b₂ :: b₃ :: rest) =
      (.char (Char.ofNat (extend (extend (extend bits b₁) b₂) b₃)), rest) := by
  unfold next
  rw [if_neg hb]
  simp only [hlead, if_pos h₁, if_pos h₂, if_pos h₃]

lemma toNat_ofNat (h : n < 256) : (UInt8.ofNat n).toNat = n := by
  rw [UInt8.toNat_ofNat', Nat.mod_eq_of_lt h]

lemma isTail_ofNat (h : 0x80 ≤ n ∧ n ≤ 0xBF) : isTail (UInt8.ofNat n) = true := by
  rw [isTail, toNat_ofNat (by omega), Bool.and_eq_true, decide_eq_true_eq, decide_eq_true_eq]
  exact h

lemma extend_ofNat (h : n < 64) : extend bits (UInt8.ofNat (n + 128)) = bits * 64 + n := by
  have hb : (UInt8.ofNat (n + 128)).toNat = n + 128 := toNat_ofNat (by omega)
  unfold extend
  omega

lemma toNat_bounds (c : Char) :
    c.val.toNat < 0xD800 ∨ 0xDFFF < c.val.toNat ∧ c.val.toNat < 0x110000 := c.valid

lemma next_encode_two (h : 0x80 ≤ n ∧ n ≤ 0x7FF) :
    next (UInt8.ofNat (n / 64 % 32 + 192)) (UInt8.ofNat (n % 64 + 128) :: rest) =
      (.char (Char.ofNat n), rest) := by
  have hb : (UInt8.ofNat (n / 64 % 32 + 192)).toNat = n / 64 + 0xC0 := by
    rw [toNat_ofNat (by omega)]
    omega
  have hlead : lead? (n / 64 + 0xC0) = some ⟨0x80, 0xBF, n / 64, 0⟩ := by
    rw [lead?, if_pos (by omega), Nat.add_sub_cancel]
  rw [next_two (by omega) (hb ▸ hlead), extend_ofNat (by omega), Nat.div_add_mod']
  rw [toNat_ofNat (by omega)]
  omega

lemma next_encode_three (h : 0x800 ≤ n ∧ n ≤ 0xFFFF) (hn : n < 0xD800 ∨ 0xDFFF < n) :
    next (UInt8.ofNat (n / 4096 % 16 + 224))
      (UInt8.ofNat (n / 64 % 64 + 128) :: UInt8.ofNat (n % 64 + 128) :: rest) =
      (.char (Char.ofNat n), rest) := by
  have hb : (UInt8.ofNat (n / 4096 % 16 + 224)).toNat = n / 4096 + 0xE0 := by
    rw [toNat_ofNat (by omega)]
    omega
  have hb₁ : (UInt8.ofNat (n / 64 % 64 + 128)).toNat = n / 64 % 64 + 128 := toNat_ofNat (by omega)
  -- The second byte is bounded from below where the lead is zero, and from above before surrogates.
  obtain ⟨low, high, hlead, hbounds⟩ : ∃ low high, lead? (n / 4096 + 0xE0) =
      some ⟨low, high, n / 4096, 1⟩ ∧ low ≤ n / 64 % 64 + 128 ∧ n / 64 % 64 + 128 ≤ high := by
    by_cases h0 : n / 4096 = 0
    · exact ⟨0xA0, 0xBF, by rw [h0]; rfl, by omega⟩
    · by_cases h13 : n / 4096 = 13
      · exact ⟨0x80, 0x9F, by rw [h13]; rfl, by omega⟩
      · refine ⟨0x80, 0xBF, ?_, by omega⟩
        rw [lead?, if_neg (by omega), if_neg (by omega), if_neg (by omega), if_pos (by omega),
          Nat.add_sub_cancel]
  rw [next_three (by omega) (hb ▸ hlead) (by rwa [hb₁]) (isTail_ofNat (by omega)),
    extend_ofNat (by omega), extend_ofNat (by omega)]
  congr 3
  omega

lemma next_encode_four (h : 0x10000 ≤ n ∧ n < 0x110000) :
    next (UInt8.ofNat (n / 262144 % 8 + 240))
      (UInt8.ofNat (n / 4096 % 64 + 128) :: UInt8.ofNat (n / 64 % 64 + 128) ::
        UInt8.ofNat (n % 64 + 128) :: rest) = (.char (Char.ofNat n), rest) := by
  have hb : (UInt8.ofNat (n / 262144 % 8 + 240)).toNat = n / 262144 + 0xF0 := by
    rw [toNat_ofNat (by omega)]
    omega
  have hb₁ : (UInt8.ofNat (n / 4096 % 64 + 128)).toNat = n / 4096 % 64 + 128 :=
    toNat_ofNat (by omega)
  obtain ⟨low, high, hlead, hbounds⟩ : ∃ low high, lead? (n / 262144 + 0xF0) =
      some ⟨low, high, n / 262144, 2⟩ ∧ low ≤ n / 4096 % 64 + 128 ∧
        n / 4096 % 64 + 128 ≤ high := by
    by_cases h0 : n / 262144 = 0
    · exact ⟨0x90, 0xBF, by rw [h0]; rfl, by omega⟩
    · by_cases h4 : n / 262144 = 4
      · exact ⟨0x80, 0x8F, by rw [h4]; rfl, by omega⟩
      · refine ⟨0x80, 0xBF, ?_, by omega⟩
        rw [lead?, if_neg (by omega), if_neg (by omega), if_neg (by omega), if_neg (by omega),
          if_neg (by omega), if_pos (by omega), Nat.add_sub_cancel]
  rw [next_four (by omega) (hb ▸ hlead) (by rwa [hb₁]) (isTail_ofNat (by omega))
      (isTail_ofNat (by omega)), extend_ofNat (by omega), extend_ofNat (by omega),
    extend_ofNat (by omega)]
  congr 3
  omega

lemma next_encode (c : Char) (rest : Bytes) :
    ∃ b bs, String.utf8EncodeChar c = b :: bs ∧ next b (bs ++ rest) = (.char c, rest) := by
  have hc := toNat_bounds c
  have hchar : Char.ofNat c.val.toNat = c := Char.ofNat_toNat c
  unfold String.utf8EncodeChar
  dsimp only
  by_cases h₁ : c.val.toNat ≤ 127
  · refine ⟨_, _, if_pos h₁, ?_⟩
    have hb : (UInt8.ofNat c.val.toNat).toNat = c.val.toNat := toNat_ofNat (by omega)
    exact (next_ascii (by omega) rest).trans (by rw [hb, hchar])
  rw [if_neg h₁]
  by_cases h₂ : c.val.toNat ≤ 2047
  · exact ⟨_, _, if_pos h₂, (next_encode_two (by omega)).trans (by rw [hchar]; rfl)⟩
  rw [if_neg h₂]
  by_cases h₃ : c.val.toNat ≤ 65535
  · exact ⟨_, _, if_pos h₃, (next_encode_three (by omega) (by omega)).trans (by rw [hchar]; rfl)⟩
  · exact ⟨_, _, if_neg h₃, (next_encode_four (by omega)).trans (by rw [hchar]; rfl)⟩

end Next

lemma pieces_nil : pieces [] = [] := by rw [pieces]

lemma pieces_cons {b : UInt8} {bs rest : Bytes} {p : Piece} (h : next b bs = (p, rest)) :
    pieces (b :: bs) = p :: pieces rest := by rw [pieces, h]

lemma pieces_encode_append (t : Text) (rest : Bytes) :
    pieces (encode t ++ rest) = t.map .char ++ pieces rest := by
  induction t with
  | nil => rfl
  | cons c t ih =>
    obtain ⟨b, bs, hc, hnext⟩ := next_encode c (encode t ++ rest)
    rw [encode, List.flatMap_cons, hc, List.append_assoc, List.cons_append]
    exact (pieces_cons hnext).trans (congrArg (.char c :: ·) ih)

lemma pieces_encode (t : Text) : pieces (encode t) = t.map .char := by
  have := pieces_encode_append t []
  rwa [List.append_nil, pieces_nil, List.append_nil] at this

theorem decode?_encode (t : Text) : decode? (encode t) = some t := by
  rw [decode?, pieces_encode, mapM_eq_some_iff, List.map_map]
  rfl

theorem decodeLossy_encode (t : Text) : decodeLossy (encode t) = t := by
  rw [decodeLossy, pieces_encode, List.map_map]
  exact List.map_id t

theorem encode_injective {s t : Text} (h : encode s = encode t) : s = t := by
  have := decode?_encode s
  rw [h, decode?_encode] at this
  exact (Option.some.inj this).symm

lemma length_pieces_le (bs : Bytes) : (pieces bs).length ≤ bs.length := by
  induction bs using pieces.induct with
  | case1 =>
    rw [pieces_nil]
    exact Nat.le_refl _
  | case2 b rest ih =>
    have hnext := length_next_le b rest
    rw [pieces, List.length_cons, List.length_cons]
    omega

/-- A character takes a byte at least. -/
lemma length_le_of_decode? {bs : Bytes} {t : Text} (h : decode? bs = some t) :
    t.length ≤ bs.length := by
  have hlength := congrArg List.length (mapM_eq_some_iff.1 h)
  rw [List.length_map, List.length_map] at hlength
  rw [← hlength]
  exact length_pieces_le bs

/-- The bytes of a character outside ASCII are no bytes of ASCII. -/
lemma toNat_eq_of_mem_char {b : UInt8} {c : Char} (h : b ∈ String.utf8EncodeChar c)
    (hb : b.toNat < 0x80) : b.toNat = c.val.toNat := by
  have hlong {n : Nat} (hn : b = UInt8.ofNat n) (hlow : 0x80 ≤ n ∧ n < 256) : False := by
    rw [hn, toNat_ofNat hlow.2] at hb
    omega
  have hc := toNat_bounds c
  unfold String.utf8EncodeChar at h
  dsimp only at h
  split at h
  · rw [List.mem_singleton.1 h, toNat_ofNat (by omega)]
  · split at h
    · simp only [List.mem_cons, List.not_mem_nil, or_false] at h
      obtain h | h := h <;> exact (hlong h (by omega)).elim
    · split at h
      · simp only [List.mem_cons, List.not_mem_nil, or_false] at h
        obtain h | h | h := h <;> exact (hlong h (by omega)).elim
      · simp only [List.mem_cons, List.not_mem_nil, or_false] at h
        obtain h | h | h | h := h <;> exact (hlong h (by omega)).elim

lemma mem_of_mem_encode {b : UInt8} {t : Text} (h : b ∈ encode t) (hb : b.toNat < 0x80) :
    Char.ofNat b.toNat ∈ t := by
  obtain ⟨c, hc, h⟩ := List.mem_flatMap.1 h
  rw [toNat_eq_of_mem_char h hb]
  exact (Char.ofNat_toNat c).symm ▸ hc

/-! ## Cutting at ASCII characters -/

section Ascii

variable {s : UInt8}

lemma lead?_low {n : Nat} {l : Lead} (h : lead? n = some l) : 0x80 ≤ l.low := by
  unfold lead? at h
  split_ifs at h <;> (cases h; dsimp only; omega)

/-- What begins before an ASCII character ends before it. -/
lemma next_append (hs : s.toNat < 0x80) (b : UInt8) (rest t : Bytes) :
    next b (rest ++ s :: t) = ((next b rest).1, (next b rest).2 ++ s :: t) := by
  have htail : ¬isTail s = true := by
    rw [isTail, Bool.and_eq_true, decide_eq_true_eq]
    omega
  have hstop (l : Lead) (hlead : lead? b.toNat = some l) :
      ¬(l.low ≤ s.toNat ∧ s.toNat ≤ l.high) := by
    have := lead?_low hlead
    omega
  fun_cases next b rest with
  | case1 _ hb => exact next_ascii hb _
  | case10 _ hb hnone =>
    cases hlead : lead? b.toNat with
    | none => simp [next, hb, hlead]
    | some l =>
      cases rest with
      | nil => simp [next, hb, hlead, hstop l hlead]
      | cons b₁ r => exact (hnone l b₁ r hlead rfl).elim
  | _ => simp +zetaDelta [next, *]

theorem pieces_append (hs : s.toNat < 0x80) (a t : Bytes) :
    pieces (a ++ s :: t) = pieces a ++ .char (Char.ofNat s.toNat) :: pieces t := by
  induction a using pieces.induct with
  | case1 => rw [List.nil_append, pieces_nil, pieces_cons (next_ascii hs t), List.nil_append]
  | case2 b rest ih =>
    have hcons : pieces (b :: rest) = (next b rest).1 :: pieces (next b rest).2 := by rw [pieces]
    rw [List.cons_append, pieces_cons (next_append hs b rest t), ih, hcons, List.cons_append]

lemma decodeLossy_append (hs : s.toNat < 0x80) (a t : Bytes) :
    decodeLossy (a ++ s :: t) = decodeLossy a ++ Char.ofNat s.toNat :: decodeLossy t := by
  rw [decodeLossy, pieces_append hs, List.map_append, List.map_cons]
  rfl

/-- What a lead asks of the second byte keeps all that follows out of ASCII. -/
lemma lead?_bits {n : Nat} {l : Lead} {b : UInt8} (h : lead? n = some l) (hb : l.low ≤ b.toNat) :
    l.more = 0 ∧ 0x80 ≤ extend l.bits b ∨ l.more = 1 ∧ 0x80 ≤ extend l.bits b * 64 ∨
      l.more = 2 ∧ 0x80 ≤ extend l.bits b * 64 * 64 := by
  have hlow := lead?_low h
  unfold lead? at h
  unfold extend
  split_ifs at h <;> (cases h; dsimp only at hb ⊢; omega)

lemma le_extend (bits : Nat) (b : UInt8) : bits * 64 ≤ extend bits b := Nat.le_add_right _ _

/-- A character is read from one byte of ASCII, or it is none of ASCII. -/
lemma next_eq_char {b : UInt8} {rest r : Bytes} {c : Char} (h : next b rest = (.char c, r)) :
    b.toNat < 0x80 ∧ c = Char.ofNat b.toNat ∧ r = rest ∨ ∃ n, 0x80 ≤ n ∧ c = Char.ofNat n := by
  revert h
  fun_cases next b rest with
  | case1 _ hb =>
    intro h
    cases h
    exact .inl ⟨hb, rfl, rfl⟩
  | case2 hb l b₁ r₁ hlead h₁ bits hmore =>
    intro h
    have := lead?_bits hlead h₁.1
    exact .inr ⟨bits, by omega, (Piece.char.inj (Prod.mk.inj h).1).symm⟩
  | case4 hb l b₁ hlead h₁ bits₁ b₂ r₂ h₂ bits hmore =>
    intro h
    have := lead?_bits hlead h₁.1
    have hbits : bits₁ * 64 ≤ bits := le_extend bits₁ b₂
    exact .inr ⟨bits, by omega, (Piece.char.inj (Prod.mk.inj h).1).symm⟩
  | case6 hb l b₁ hlead h₁ bits₁ b₂ h₂ bits₂ n b₃ r₃ h₃ hmore =>
    intro h
    have := lead?_bits hlead h₁.1
    have hbits₂ : bits₁ * 64 ≤ bits₂ := le_extend bits₁ b₂
    have hbits₃ := le_extend bits₂ b₃
    exact .inr ⟨_, by omega, (Piece.char.inj (Prod.mk.inj h).1).symm⟩
  | _ =>
    intro h
    cases h

lemma next_suffix (b : UInt8) (rest : Bytes) : (next b rest).2 <:+ rest := by
  fun_cases next b rest with
  | case1 => exact List.suffix_rfl
  | case2 => exact List.suffix_cons _ _
  | case3 => exact List.suffix_cons _ _
  | case4 => exact List.suffix_append [_, _] _
  | case5 => exact List.suffix_append [_, _] _
  | case6 => exact List.suffix_append [_, _, _] _
  | case7 => exact List.suffix_append [_, _] _
  | case8 => exact List.suffix_cons _ _
  | case9 => exact List.suffix_rfl
  | case10 => exact List.suffix_rfl

lemma toNat_charOfNat (n : Nat) : (Char.ofNat n).toNat = if n.isValidChar then n else 0 := by
  unfold Char.ofNat
  by_cases h : n.isValidChar
  · rw [dif_pos h, if_pos h]
    rfl
  · rw [dif_neg h, if_neg h]
    rfl

lemma eq_of_charOfNat_eq {n : Nat} (hs : s.toNat < 0x80) (hzero : s ≠ 0)
    (h : Char.ofNat n = Char.ofNat s.toNat) : n = s.toNat := by
  have hpos : s.toNat ≠ 0 := fun h0 => hzero (UInt8.toNat_inj.1 h0)
  have hvalid : s.toNat.isValidChar := .inl (by omega)
  have := congrArg Char.toNat h
  rw [toNat_charOfNat, toNat_charOfNat, if_pos hvalid] at this
  split at this
  · exact this
  · exact absurd this.symm hpos

/-- The character that a piece is read as leniently. -/
def Piece.lenient : Piece → Char
  | char c => c
  | malformed _ => '\uFFFD'

/-- A character of ASCII is read where its byte stands, and nowhere else. -/
lemma eq_of_lenient_next {b : UInt8} {rest : Bytes} (hs : s.toNat < 0x80) (hzero : s ≠ 0)
    (h : (next b rest).1.lenient = Char.ofNat s.toNat) : b = s ∧ (next b rest).2 = rest := by
  cases hnext : next b rest with
  | mk p r =>
    rw [hnext] at h
    cases p with
    | char c =>
      rcases next_eq_char hnext with ⟨hb, hc, hr⟩ | ⟨n, hn, hc⟩
      · exact ⟨UInt8.toNat_inj.1 (eq_of_charOfNat_eq hs hzero (hc.symm.trans h)), hr⟩
      · have := eq_of_charOfNat_eq hs hzero (hc.symm.trans h)
        omega
    | malformed run =>
      have := eq_of_charOfNat_eq (n := 0xFFFD) hs hzero h
      omega

lemma decodeLossy_nil : decodeLossy [] = [] := by rw [decodeLossy, pieces_nil, List.map_nil]

lemma decodeLossy_cons (b : UInt8) (rest : Bytes) :
    decodeLossy (b :: rest) = (next b rest).1.lenient :: decodeLossy (next b rest).2 := by
  rw [decodeLossy, pieces, List.map_cons]
  rfl

lemma mem_of_mem_decodeLossy (hs : s.toNat < 0x80) (hzero : s ≠ 0) {bs : Bytes}
    (h : Char.ofNat s.toNat ∈ decodeLossy bs) : s ∈ bs := by
  induction bs using pieces.induct with
  | case1 =>
    rw [decodeLossy_nil] at h
    exact absurd h List.not_mem_nil
  | case2 b rest ih =>
    rw [decodeLossy_cons, List.mem_cons] at h
    rcases h with h | h
    · rw [(eq_of_lenient_next hs hzero h.symm).1]
      exact List.mem_cons_self
    · exact List.mem_cons_of_mem b ((next_suffix b rest).subset (ih h))

lemma decodeLossy_eq_nil_iff {bs : Bytes} : decodeLossy bs = [] ↔ bs = [] := by
  cases bs with
  | nil => exact iff_of_true decodeLossy_nil rfl
  | cons b rest =>
    rw [decodeLossy_cons]
    exact iff_of_false (List.cons_ne_nil _ _) (List.cons_ne_nil _ _)

lemma decodeLossy_eq_cons_iff (hs : s.toNat < 0x80) (hzero : s ≠ 0) {bs : Bytes} {t : Text} :
    decodeLossy bs = Char.ofNat s.toNat :: t ↔ ∃ rest, bs = s :: rest ∧ decodeLossy rest = t := by
  constructor
  · intro h
    cases bs with
    | nil =>
      rw [decodeLossy_nil] at h
      exact absurd h.symm (List.cons_ne_nil _ _)
    | cons b rest =>
      rw [decodeLossy_cons] at h
      obtain ⟨hhead, htail⟩ := List.cons_eq_cons.1 h
      obtain ⟨rfl, hrest⟩ := eq_of_lenient_next hs hzero hhead
      rw [hrest] at htail
      exact ⟨rest, rfl, htail⟩
  · rintro ⟨rest, rfl, rfl⟩
    rw [decodeLossy_cons, next_ascii hs]
    rfl

end Ascii

end AffiliateLinks.Utf8
