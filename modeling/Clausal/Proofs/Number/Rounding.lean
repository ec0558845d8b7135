import Clausal.Number.Binary64

/-!
# Rounded numbers

A natural number rounds to a word that stands less than two binades above the one its logarithm
gives. So whatever is well below the greatest double rounds to a finite one. A number that fills the
significand of a double comes out as a whole number of last places, and is moved by half a place at
most.
-/

namespace Clausal

theorem roundHalfEven_le (num den : Nat) : roundHalfEven num den ≤ num / den + 1 := by
  simp only [roundHalfEven]
  split <;> omega

theorem le_roundHalfEven (num den : Nat) : num / den ≤ roundHalfEven num den := by
  simp only [roundHalfEven]
  split <;> omega

/-- What is rounded away is at most one half. -/
theorem roundHalfEven_near (num den : Nat) (h : 0 < den) :
    2 * (roundHalfEven num den * den) ≤ 2 * num + den ∧
      2 * num ≤ 2 * (roundHalfEven num den * den) + den := by
  have hsum := Nat.div_add_mod' num den
  have hrest := Nat.mod_lt num h
  simp only [roundHalfEven]
  split
  · rw [Nat.add_one_mul (num / den) den]
    omega
  · omega

theorem floorLog2_one {n : Nat} (h : n ≠ 0) : floorLog2 n 1 = n.log2 := by
  have hle := Nat.log2_self_le h
  have hone : Nat.log2 1 = 0 := by decide
  simp [floorLog2, Nat.shiftLeft_eq, hone, hle]

namespace FloatFormat

/-- The significand may be one more than the fraction and its leading bit hold: a carry. -/
theorem significand_le {n : Nat} {e : Int} (h : e = n.log2 - 52) :
    (if 0 ≤ e then roundHalfEven n (1 <<< e.toNat) else roundHalfEven (n <<< (-e).toNat) 1)
      ≤ 0x20000000000000 := by
  have hn := Nat.lt_log2_self (n := n)
  split
  -- The number has more digits than fit and is cut, or it fits and is shifted up.
  · have hlog : n.log2 + 1 = 53 + e.toNat := by omega
    rw [hlog, Nat.pow_add] at hn
    refine Nat.le_trans (roundHalfEven_le _ _) (Nat.succ_le_of_lt ?_)
    rw [Nat.shiftLeft_eq, Nat.one_mul]
    exact Nat.div_lt_of_lt_mul (Nat.mul_comm _ _ ▸ hn)
  · have hlog : 53 = n.log2 + 1 + (-e).toNat := by omega
    have hpow : 0x20000000000000 = Nat.pow 2 (n.log2 + 1) * Nat.pow 2 (-e).toNat := by
      have h53 : Nat.pow 2 53 = Nat.pow 2 (n.log2 + 1 + (-e).toNat) := congrArg _ hlog
      exact h53.trans (Nat.pow_add 2 _ _)
    refine Nat.le_trans (roundHalfEven_le _ _) (Nat.succ_le_of_lt ?_)
    rw [Nat.div_one, Nat.shiftLeft_eq, hpow]
    exact Nat.mul_lt_mul_of_pos_right hn (Nat.pow_pos (by decide))

theorem roundMagnitude_le (n : Nat) :
    binary64.roundMagnitude n 1 ≤ (n.log2 + 1024) <<< 52 := by
  by_cases hn : n = 0
  · simp [roundMagnitude, hn]
  · have he : max binary64.minExponent (floorLog2 n 1 - (binary64.fractionBits : Nat))
        = n.log2 - 52 := by
      rw [floorLog2_one hn]
      change max (-1074 : Int) (n.log2 - 52) = _
      omega
    have hm := significand_le (n := n) rfl
    have hfield : ((n.log2 : Int) - 52 - binary64.minExponent).toNat = n.log2 + 1022 := by
      change ((n.log2 : Int) - 52 - (-1074)).toNat = _
      omega
    have hfraction : binary64.fractionBits = 52 := rfl
    rw [roundMagnitude, if_neg hn]
    simp only [he, hfield]
    rw [hfraction]
    refine Nat.le_trans (Nat.min_le_right _ _) (Nat.le_trans (Nat.add_le_add_left hm _) ?_)
    simp only [Nat.shiftLeft_eq, Nat.reducePow]
    omega

section Fields

variable {field fraction : Nat} (hfraction : fraction < 0x10000000000000)

include hfraction

theorem exponentField_eq (hfield : field < 2048) :
    binary64.exponentField (field * 0x10000000000000 + fraction) = field := by
  change ((field * 0x10000000000000 + fraction) >>> 52) % 2048 = field
  rw [Nat.shiftRight_eq_div_pow]
  simp only [Nat.reducePow]
  omega

theorem fractionField_eq :
    binary64.fractionField (field * 0x10000000000000 + fraction) = fraction := by
  change (field * 0x10000000000000 + fraction) % 0x10000000000000 = fraction
  omega

/-- The ratio of a whole number, in the last places of its word. -/
theorem ratio_eq (hfield : field < 2048) (hplaces : 1075 ≤ field) :
    binary64.ratio (field * 0x10000000000000 + fraction)
      = ((0x10000000000000 + fraction) <<< (field - 1075), 1) := by
  have hexponent : binary64.exponent (field * 0x10000000000000 + fraction)
      = (field - 1075 : Nat) := by
    rw [exponent, exponentField_eq hfraction hfield]
    change -1074 + ((field - 1 : Nat) : Int) = (field - 1075 : Nat)
    omega
  have hsignificand : binary64.significand (field * 0x10000000000000 + fraction)
      = 0x10000000000000 + fraction := by
    rw [significand, exponentField_eq hfraction hfield, fractionField_eq hfraction,
      if_neg (by omega)]
    rfl
  simp only [ratio, hexponent, hsignificand]
  rw [if_pos (Int.natCast_nonneg _), Int.toNat_natCast]

end Fields

section Places

variable {n : Nat} (hlow : 52 ≤ n.log2)

include hlow

theorem le_significand : 0x10000000000000 ≤ roundHalfEven n (1 <<< (n.log2 - 52)) := by
  have hne : n ≠ 0 := by
    rintro rfl
    exact absurd hlow (by decide)
  have hpow : 0x10000000000000 * Nat.pow 2 (n.log2 - 52) = Nat.pow 2 n.log2 := by
    have hsplit := Nat.pow_add 2 52 (n.log2 - 52)
    rw [Nat.add_sub_cancel' hlow] at hsplit
    exact hsplit.symm
  refine Nat.le_trans ?_ (le_roundHalfEven n _)
  rw [Nat.shiftLeft_eq, Nat.one_mul, Nat.le_div_iff_mul_le (Nat.two_pow_pos _)]
  exact hpow ▸ Nat.log2_self_le hne

/-- The word of a number that fills the significand: its last place is that of its logarithm. -/
theorem roundMagnitude_eq (hhigh : n.log2 < 1023) :
    binary64.roundMagnitude n 1
      = (n.log2 + 1022) * 0x10000000000000 + roundHalfEven n (1 <<< (n.log2 - 52)) := by
  have hne : n ≠ 0 := by
    rintro rfl
    exact absurd hlow (by decide)
  have he : max binary64.minExponent (floorLog2 n 1 - (binary64.fractionBits : Nat))
      = (n.log2 - 52 : Nat) := by
    rw [floorLog2_one hne]
    change max (-1074 : Int) (n.log2 - 52) = _
    omega
  have hfield : (((n.log2 - 52 : Nat) : Int) - binary64.minExponent).toNat = n.log2 + 1022 := by
    change (((n.log2 - 52 : Nat) : Int) - (-1074)).toNat = _
    omega
  have hle := significand_le (n := n) (e := (n.log2 - 52 : Nat)) (by omega)
  rw [if_pos (Int.natCast_nonneg _), Int.toNat_natCast] at hle
  have hinfinity : binary64.infinity = 0x7ff0000000000000 := by decide
  have hfraction : binary64.fractionBits = 52 := rfl
  rw [roundMagnitude, if_neg hne]
  simp only [he, hfield]
  rw [hinfinity, hfraction, if_pos (Int.natCast_nonneg _), Int.toNat_natCast, Nat.shiftLeft_eq]
  simp only [Nat.reducePow]
  omega

/-- The ratio of a rounded number: a whole number of last places. A carry out of the significand
makes the places twice as wide and the significand half as large. -/
theorem ratio_roundMagnitude (hhigh : n.log2 < 1023) :
    binary64.ratio (binary64.roundMagnitude n 1)
      = (roundHalfEven n (1 <<< (n.log2 - 52)) * (1 <<< (n.log2 - 52)), 1) := by
  have hle := significand_le (n := n) (e := (n.log2 - 52 : Nat)) (by omega)
  rw [if_pos (Int.natCast_nonneg _), Int.toNat_natCast] at hle
  have hge := le_significand hlow
  rw [roundMagnitude_eq hlow hhigh]
  generalize roundHalfEven n (1 <<< (n.log2 - 52)) = m at hle hge ⊢
  by_cases hcarry : m < 0x20000000000000
  · have hword : (n.log2 + 1022) * 0x10000000000000 + m
        = (n.log2 + 1023) * 0x10000000000000 + (m - 0x10000000000000) := by omega
    have hplaces : n.log2 + 1023 - 1075 = n.log2 - 52 := by omega
    rw [hword, ratio_eq (by omega) (by omega) (by omega), hplaces, Nat.add_sub_cancel' hge,
      Nat.shiftLeft_eq, Nat.one_shiftLeft]
  · have hm : m = 0x20000000000000 := by omega
    have hword : (n.log2 + 1022) * 0x10000000000000 + m
        = (n.log2 + 1024) * 0x10000000000000 + 0 := by omega
    have hplaces : n.log2 + 1024 - 1075 = n.log2 - 52 + 1 := by omega
    rw [hword, ratio_eq (by omega) (by omega) (by omega), hplaces, hm, Nat.shiftLeft_eq,
      Nat.one_shiftLeft, Nat.pow_succ', ← Nat.mul_assoc]

end Places

end FloatFormat

namespace Binary64

theorem round_ofNat_lt {n : Nat} (h : n.log2 < 1023) :
    FloatFormat.binary64.round false n 1 < 2047 * 0x10000000000000 := by
  have hle := FloatFormat.roundMagnitude_le n
  simp only [Nat.shiftLeft_eq, Nat.reducePow] at hle
  simp only [FloatFormat.round, Bool.false_eq_true, if_false, Nat.zero_add]
  omega

theorem word_ofNat {n : Nat} (h : n.log2 < 1023) :
    (ofNat n).word = FloatFormat.binary64.round false n 1 :=
  UInt64.toNat_ofNat_of_lt (Nat.lt_trans (round_ofNat_lt h) (by decide))

theorem isFinite_ofNat {n : Nat} (h : n.log2 < 1023) : (ofNat n).isFinite = true := by
  have hfield : FloatFormat.binary64.exponentField (ofNat n).word < 2047 := by
    rw [word_ofNat h, FloatFormat.exponentField, Nat.shiftRight_eq_div_pow]
    refine Nat.lt_of_le_of_lt (Nat.mod_le _ _) (Nat.div_lt_of_lt_mul ?_)
    rw [Nat.mul_comm]
    exact round_ofNat_lt h
  simp only [isFinite, FloatFormat.isFinite, bne_iff_ne]
  exact Nat.ne_of_lt hfield

theorem isNegative_ofNat {n : Nat} (h : n.log2 < 1023) : (ofNat n).isNegative = false := by
  have hsign : FloatFormat.binary64.signBit = 0x8000000000000000 := by decide
  have hlt := round_ofNat_lt h
  rw [isNegative, FloatFormat.isNegative, word_ofNat h, decide_eq_false_iff_not]
  omega

theorem ratio_ofNat {n : Nat} (hlow : 52 ≤ n.log2) (hhigh : n.log2 < 1023) :
    FloatFormat.binary64.ratio (ofNat n).word
      = (roundHalfEven n (1 <<< (n.log2 - 52)) * (1 <<< (n.log2 - 52)), 1) := by
  rw [word_ofNat hhigh, FloatFormat.round, if_neg Bool.false_ne_true, Nat.zero_add]
  exact FloatFormat.ratio_roundMagnitude hlow hhigh

end Binary64

end Clausal
