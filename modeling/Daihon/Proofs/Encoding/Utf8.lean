import Daihon.Encoding.Codec
import Mathlib.Tactic.Ring

/-!
# UTF-8 reads back

The bytes of a text decode to the text (`decode_encode`).  The bytes of a character are its first byte,
which begins a sequence, and tails of six bits each; while they are decoded, the open sequence has spelled
the upper bits of the character and owes a tail for every six bits that are left (`Sequence.Spells`).
-/

namespace Daihon.Encoding

namespace Utf8

/-- The tails of a number: six bits each, of which the upper ones come first. -/
def tails (n : Nat) : Nat → List UInt8
  | 0 => []
  | m + 1 => .ofNat (0x80 + n / 64 ^ m % 64) :: tails n m

/-- Whether an open sequence has spelled a number but for `m + 1` tails, and the next one is welcome. -/
structure Sequence.Spells (q : Sequence) (n m : Nat) : Prop where
  owed : q.owed = m + 1
  code : q.code = n / 64 ^ (m + 1)
  low : q.low ≤ 0x80 + n / 64 ^ m % 64
  high : 0x80 + n / 64 ^ m % 64 ≤ q.high

theorem toNat_ofNat_of_lt {n : Nat} (h : n < 256) : (UInt8.ofNat n).toNat = n :=
  UInt8.toNat_ofNat_of_lt' h

theorem toNat_tail (n : Nat) : (UInt8.ofNat (0x80 + n % 64)).toNat = 0x80 + n % 64 := by
  apply toNat_ofNat_of_lt
  omega

/-- A number is what a tail adds to the bits above it. -/
theorem code_step (n m : Nat) : 64 * (n / 64 ^ (m + 1)) + n / 64 ^ m % 64 = n / 64 ^ m := by
  rw [pow_succ, ← Nat.div_div_eq_div_mul]
  omega

/-- The tails that a sequence owes complete its character. -/
theorem decodeFrom_tails {q : Sequence} {n m : Nat} (hq : q.Spells n m) (pos : Nat) (bs : List UInt8) :
    decodeFrom pos (some q) (tails n (m + 1) ++ bs) =
      (decodeFrom (pos + (m + 1)) none bs).map (Char.ofNat n :: ·) := by
  induction m generalizing q pos with
  | zero =>
    have hlow := hq.low
    have hhigh := hq.high
    have hcode := code_step n 0
    rw [pow_zero, Nat.div_one] at hlow hhigh hcode
    rw [tails, tails, pow_zero, Nat.div_one, List.singleton_append, decodeFrom, toNat_tail]
    rw [if_pos (by simp only [hlow, hhigh, decide_true, Bool.and_self]), if_pos (Nat.le_of_eq hq.owed),
      hq.code, Nat.add_sub_cancel_left, hcode]
  | succ m ih =>
    have hlow := hq.low
    have hhigh := hq.high
    have howed : ¬ q.owed ≤ 1 := by
      rw [hq.owed]
      omega
    have hnext : Sequence.Spells
        { q with code := n / 64 ^ (m + 1), owed := m + 1, low := 0x80, high := 0xBF } n m :=
      ⟨rfl, rfl, by simp only; omega, by simp only; omega⟩
    rw [tails, List.cons_append, decodeFrom, toNat_tail,
      if_pos (by simp only [hlow, hhigh, decide_true, Bool.and_self]), if_neg howed,
      hq.code, hq.owed, Nat.add_sub_cancel_left, Nat.add_sub_cancel_right, code_step, ih hnext]
    congr 2
    omega

theorem toNat_valid (c : Char) : c.toNat < 0xD800 ∨ 0xE000 ≤ c.toNat ∧ c.toNat < 0x110000 := by
  have h := c.valid
  have hval : c.val.toNat = c.toNat := rfl
  rw [UInt32.isValidChar, Nat.isValidChar, hval] at h
  omega

/-! ### First bytes -/

section Begin

variable {n : Nat} (pos : Nat)

theorem exists_begin?_two (hlow : 0x80 ≤ n) (hhigh : n < 0x800) :
    ∃ q, begin? pos (.ofNat (0xC0 + n / 64)) = some q ∧ q.Spells n 0 := by
  have hlead : (UInt8.ofNat (0xC0 + n / 64)).toNat = 0xC0 + n / 64 := toNat_ofNat_of_lt (by omega)
  simp only [begin?, hlead, Bool.and_eq_true, decide_eq_true_eq, beq_iff_eq]
  rw [if_pos (by omega)]
  exact ⟨_, rfl, rfl, by simp only; omega, by simp only; omega, by simp only; omega⟩

/-- Three bytes: the first of them shuts out what two bytes spell, and surrogates. -/
theorem exists_begin?_three (hlow : 0x800 ≤ n) (hhigh : n < 0x10000)
    (hvalid : n < 0xD800 ∨ 0xE000 ≤ n) :
    ∃ q, begin? pos (.ofNat (0xE0 + n / 0x1000)) = some q ∧ q.Spells n 1 := by
  have hlead : (UInt8.ofNat (0xE0 + n / 0x1000)).toNat = 0xE0 + n / 0x1000 :=
    toNat_ofNat_of_lt (by omega)
  simp only [begin?, hlead, Bool.and_eq_true, decide_eq_true_eq, beq_iff_eq]
  rw [if_neg (by omega)]
  by_cases hfirst : 0xE0 + n / 0x1000 = 0xE0
  · rw [if_pos hfirst]
    exact ⟨_, rfl, rfl, by simp only; omega, by simp only; omega, by simp only; omega⟩
  · rw [if_neg hfirst]
    by_cases hsurrogate : 0xE0 + n / 0x1000 = 0xED
    · rw [if_pos hsurrogate]
      exact ⟨_, rfl, rfl, by simp only; omega, by simp only; omega, by simp only; omega⟩
    · rw [if_neg hsurrogate, if_pos (by omega)]
      exact ⟨_, rfl, rfl, by simp only; omega, by simp only; omega, by simp only; omega⟩

/-- Four bytes: the first of them shuts out what three bytes spell, and numbers that are too great. -/
theorem exists_begin?_four (hlow : 0x10000 ≤ n) (hhigh : n < 0x110000) :
    ∃ q, begin? pos (.ofNat (0xF0 + n / 0x40000)) = some q ∧ q.Spells n 2 := by
  have hlead : (UInt8.ofNat (0xF0 + n / 0x40000)).toNat = 0xF0 + n / 0x40000 :=
    toNat_ofNat_of_lt (by omega)
  simp only [begin?, hlead, Bool.and_eq_true, decide_eq_true_eq, beq_iff_eq]
  rw [if_neg (by omega), if_neg (by omega), if_neg (by omega), if_neg (by omega)]
  by_cases hfirst : 0xF0 + n / 0x40000 = 0xF0
  · rw [if_pos hfirst]
    exact ⟨_, rfl, rfl, by simp only; omega, by simp only; omega, by simp only; omega⟩
  · rw [if_neg hfirst]
    by_cases hlast : 0xF0 + n / 0x40000 = 0xF4
    · rw [if_neg (by omega), if_pos hlast]
      exact ⟨_, rfl, rfl, by simp only; omega, by simp only; omega, by simp only; omega⟩
    · rw [if_pos (by omega)]
      exact ⟨_, rfl, rfl, by simp only; omega, by simp only; omega, by simp only; omega⟩

end Begin

/-- The bytes of a character beyond ASCII begin a sequence that its tails complete. -/
theorem exists_begin? (c : Char) (h : 0x80 ≤ c.toNat) (pos : Nat) :
    ∃ lead m q, encodeChar c = lead :: tails c.toNat (m + 1) ∧ 0x80 ≤ lead.toNat ∧
      begin? pos lead = some q ∧ q.Spells c.toNat m := by
  have hvalid := toNat_valid c
  by_cases htwo : c.toNat < 0x800
  · obtain ⟨q, hq, hspells⟩ := exists_begin?_two pos h htwo
    refine ⟨_, 0, q, ?_, ?_, hq, hspells⟩
    · rw [encodeChar, if_neg (by omega), if_pos htwo]
      rfl
    · rw [toNat_ofNat_of_lt (by omega)]
      omega
  · by_cases hthree : c.toNat < 0x10000
    · obtain ⟨q, hq, hspells⟩ := exists_begin?_three pos (by omega) hthree (by omega)
      refine ⟨_, 1, q, ?_, ?_, hq, hspells⟩
      · rw [encodeChar, if_neg (by omega), if_neg htwo, if_pos hthree]
        rfl
      · rw [toNat_ofNat_of_lt (by omega)]
        omega
    · obtain ⟨q, hq, hspells⟩ := exists_begin?_four (n := c.toNat) pos (by omega) (by omega)
      refine ⟨_, 2, q, ?_, ?_, hq, hspells⟩
      · rw [encodeChar, if_neg (by omega), if_neg htwo, if_neg hthree]
        rfl
      · rw [toNat_ofNat_of_lt (by omega)]
        omega

/-! ### Texts -/

/-- The bytes of a character are decoded to the character. -/
theorem decodeFrom_encodeChar (c : Char) (pos : Nat) (bs : List UInt8) :
    ∃ pos', decodeFrom pos none (encodeChar c ++ bs) = (decodeFrom pos' none bs).map (c :: ·) := by
  by_cases hascii : c.toNat < 0x80
  · refine ⟨pos + 1, ?_⟩
    have hbyte : (UInt8.ofNat c.toNat).toNat = c.toNat := toNat_ofNat_of_lt (by omega)
    rw [encodeChar, if_pos hascii, List.singleton_append, decodeFrom, hbyte, if_pos hascii,
      Char.ofNat_toNat]
  · obtain ⟨lead, m, q, hbytes, hlead, hbegin, hq⟩ := exists_begin? c (by omega) pos
    refine ⟨pos + 1 + (m + 1), ?_⟩
    rw [hbytes, List.cons_append, decodeFrom, if_neg (by omega), hbegin]
    exact (decodeFrom_tails hq (pos + 1) bs).trans (by rw [Char.ofNat_toNat])

theorem decodeFrom_encode (s : List Char) (pos : Nat) : decodeFrom pos none (encode s) = .ok s := by
  induction s generalizing pos with
  | nil => rfl
  | cons c s ih =>
    obtain ⟨pos', h⟩ := decodeFrom_encodeChar c pos (encode s)
    rw [encode, List.flatMap_cons, ← encode, h, ih]
    rfl

/-- **The bytes of a text are decoded to the text.** -/
theorem decode_encode (s : List Char) : decode (encode s) = .ok s :=
  decodeFrom_encode s 0

end Utf8

theorem Codec.decode_utf8_encode (s : List Char) : Codec.utf8.decode (Utf8.encode s) = .ok s := by
  show (Utf8.decode (Utf8.encode s)).mapError DecodeError.faulty = .ok s
  rw [Utf8.decode_encode]
  rfl

end Daihon.Encoding
