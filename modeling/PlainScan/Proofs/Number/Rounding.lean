import Mathlib.Tactic.Linarith
import Mathlib.Tactic.Ring
import PlainScan.Number.Basic

namespace PlainScan.Binary64

/-!
# Whole numbers in the binary format

The format keeps 53 bits of a whole number, and a number that has more of them is rounded.  So a
number just below a power of two may be rounded up to it, and just below the end of the format it
may be rounded beyond the end.

* `roundQuotient_lt_iff` — which quotients are rounded below an even number.
* `wholeUnits` — what a whole number is rounded to; `wholeUnits_lt_iff` tells when that is below a
  power of two.
* `ofInt_of_pos`, `wholeUnits_toNat_lt_iff` — the same for positive integers.
-/

/-! ### Quotients -/

section

variable {num den k : Nat}

/-- Rounding does not cross an integer from above. -/
theorem le_roundQuotient (hden : 0 < den) (h : k * den ≤ num) : k ≤ roundQuotient num den := by
  have hlow : k ≤ num / den := (Nat.le_div_iff_mul_le hden).mpr h
  rw [roundQuotient]
  split <;> omega

/-- Rounding does not cross an integer from below. -/
theorem roundQuotient_le (hden : 0 < den) (h : num ≤ k * den) : roundQuotient num den ≤ k := by
  have hsplit := Nat.div_add_mod num den
  have hrest := Nat.mod_lt num hden
  have hlow : num / den ≤ k := Nat.div_le_of_le_mul (by rwa [Nat.mul_comm])
  rcases Nat.lt_or_eq_of_le hlow with hlt | heq
  · rw [roundQuotient]
    split <;> omega
  · -- the quotient is the integer itself, so nothing is left
    rw [heq, Nat.mul_comm] at hsplit
    have hzero : num % den = 0 := by omega
    rw [roundQuotient, heq, hzero, if_neg]
    simp only [Nat.mul_zero, Bool.or_eq_true, Bool.and_eq_true, decide_eq_true_eq, beq_iff_eq]
    omega

/-- A quotient is rounded below an even number exactly if it is nearer to the number before it; the
    one in the middle between them goes to the even number. -/
theorem roundQuotient_lt_iff (hden : 0 < den) (heven : k % 2 = 0) :
    roundQuotient num den < k ↔ 2 * num + den < 2 * (k * den) := by
  have hsplit := Nat.div_add_mod num den
  have hrest := Nat.mod_lt num hden
  rw [Nat.mul_comm] at hsplit
  rw [roundQuotient]
  generalize num / den = low at hsplit
  generalize num % den = rest at hsplit hrest
  rcases Nat.lt_trichotomy (low + 1) k with hbelow | rfl | habove
  · have hk : (low + 2) * den ≤ k * den := Nat.mul_le_mul_right den hbelow
    rw [Nat.add_mul] at hk
    constructor
    · intro _
      omega
    · intro _
      split <;> omega
  · -- the quotient lies between an odd number and the even one
    rw [Nat.add_mul]
    have hodd : low % 2 = 1 := by omega
    simp only [hodd, beq_self_eq_true, Bool.and_true, Bool.or_eq_true, decide_eq_true_eq,
      beq_iff_eq]
    split <;> omega
  · have hk : k * den ≤ low * den := Nat.mul_le_mul_right den (by omega)
    constructor
    · split <;> omega
    · intro _
      omega

end

/-! ### Whole numbers -/

/-- The spacing of the format at a whole number, in units. -/
def wholeSpacing (n : Nat) : Nat := Nat.pow 2 (spacingBits (n * unitsOfOne))

/-- What a whole number is rounded to, in units. -/
def wholeUnits (n : Nat) : Nat :=
  roundQuotient (n * unitsOfOne) (wholeSpacing n) * wholeSpacing n

theorem ofInt_eq (n : Int) : ofInt n = ofUnits (n < 0) (wholeUnits n.natAbs) := by
  simp only [ofInt, ofRatio, wholeUnits, wholeSpacing, Nat.div_one, Nat.one_mul]

theorem natPow_eq (base exponent : Nat) : Nat.pow base exponent = base ^ exponent := rfl

theorem unitsOfOne_eq : unitsOfOne = 2 ^ unitBits := by
  unfold unitsOfOne
  generalize unitBits = bits
  rfl

theorem unitsOfOne_pos : 0 < unitsOfOne := by
  rw [unitsOfOne_eq]
  exact Nat.pow_pos (by decide)

theorem wholeSpacing_pos (n : Nat) : 0 < wholeSpacing n := by
  rw [wholeSpacing, natPow_eq]
  exact Nat.pow_pos (by decide)

variable {n : Nat}

theorem log2_mul_unitsOfOne (hn : n ≠ 0) : (n * unitsOfOne).log2 = n.log2 + unitBits := by
  have hpos := unitsOfOne_pos
  rw [Nat.log2_eq_iff (Nat.mul_ne_zero hn hpos.ne'), Nat.pow_add, Nat.add_right_comm, Nat.pow_add,
    ← unitsOfOne_eq]
  exact ⟨Nat.mul_le_mul_right _ (Nat.log2_self_le hn), Nat.mul_lt_mul_of_pos_right
    Nat.lt_log2_self hpos⟩

/-- From a power of two on the spacing is so fine that it fits in `2 ^ 52` times. -/
theorem pow_mul_wholeSpacing (hn : n ≠ 0) :
    2 ^ 52 * wholeSpacing n = 2 ^ n.log2 * unitsOfOne := by
  have hbits : spacingBits (n * unitsOfOne) = n.log2 + 1022 := by
    rw [spacingBits, log2_mul_unitsOfOne hn]
    show n.log2 + 1074 - 52 = n.log2 + 1022
    omega
  have hsum : 52 + (n.log2 + 1022) = n.log2 + unitBits := by
    show 52 + (n.log2 + 1022) = n.log2 + 1074
    omega
  rw [wholeSpacing, natPow_eq, hbits, unitsOfOne_eq, ← Nat.pow_add, ← Nat.pow_add, hsum]

/-- A number is not rounded below the power of two that it has reached. -/
theorem le_wholeUnits (hn : n ≠ 0) : 2 ^ n.log2 * unitsOfOne ≤ wholeUnits n := by
  have hreached : 2 ^ 52 * wholeSpacing n ≤ n * unitsOfOne := by
    rw [pow_mul_wholeSpacing hn]
    exact Nat.mul_le_mul_right _ (Nat.log2_self_le hn)
  rw [← pow_mul_wholeSpacing hn]
  exact Nat.mul_le_mul_right _ (le_roundQuotient (wholeSpacing_pos n) hreached)

/-- A number is not rounded above the next power of two. -/
theorem wholeUnits_le (hn : n ≠ 0) : wholeUnits n ≤ 2 ^ (n.log2 + 1) * unitsOfOne := by
  have hnext : 2 ^ 53 * wholeSpacing n = 2 ^ (n.log2 + 1) * unitsOfOne := by
    have hspacing := pow_mul_wholeSpacing hn
    rw [Nat.pow_succ 2 n.log2]
    linarith
  have hbelow : n * unitsOfOne ≤ 2 ^ 53 * wholeSpacing n := by
    rw [hnext]
    exact Nat.mul_le_mul_right _ Nat.lt_log2_self.le
  rw [← hnext]
  exact Nat.mul_le_mul_right _ (roundQuotient_le (wholeSpacing_pos n) hbelow)

/-- No positive number is rounded to zero. -/
theorem wholeUnits_pos (hn : n ≠ 0) : 0 < wholeUnits n :=
  Nat.lt_of_lt_of_le (Nat.mul_pos (Nat.pow_pos (by decide)) unitsOfOne_pos) (le_wholeUnits hn)

/-- **Rounding below a power of two.** A whole number is rounded below a power of two exactly if it
    is below the middle between that power and the last number of the format before it. -/
theorem wholeUnits_lt_iff {e : Nat} (he : 54 ≤ e) (hn : n ≠ 0) :
    wholeUnits n < 2 ^ e * unitsOfOne ↔ n + 2 ^ (e - 54) < 2 ^ e := by
  have hone := unitsOfOne_pos
  rcases Nat.lt_trichotomy (n.log2 + 1) e with hsmall | heq | hlarge
  · -- not even the next power of two is as large
    have hnext : 2 ^ (n.log2 + 1) < 2 ^ e := Nat.pow_lt_pow_right (by decide) hsmall
    have hbelow := Nat.lt_of_le_of_lt (wholeUnits_le hn) (Nat.mul_lt_mul_of_pos_right hnext hone)
    have hn' : n < 2 ^ (e - 1) :=
      Nat.lt_of_lt_of_le Nat.lt_log2_self (Nat.pow_le_pow_right (by decide) (by omega))
    have hmiddle : 2 ^ (e - 54) ≤ 2 ^ (e - 1) := Nat.pow_le_pow_right (by decide) (by omega)
    have hdouble : 2 ^ e = 2 * 2 ^ (e - 1) := by
      rw [← Nat.pow_succ', Nat.succ_eq_add_one, Nat.sub_add_cancel (by omega)]
    exact iff_of_true hbelow (by omega)
  · -- the power of two is the next one
    obtain ⟨p, rfl⟩ := Nat.exists_eq_add_of_le he
    have hlog : 2 ^ n.log2 = 2 ^ 53 * 2 ^ p := by
      rw [← Nat.pow_add]
      congr 1
      omega
    have hspacing : wholeSpacing n = 2 * 2 ^ p * unitsOfOne := by
      have hsame := pow_mul_wholeSpacing hn
      rw [hlog] at hsame
      linarith
    have htop : 2 ^ (54 + p) * unitsOfOne = 2 ^ 53 * wholeSpacing n := by
      rw [hspacing, Nat.pow_add]
      ring
    rw [htop, wholeUnits, Nat.mul_lt_mul_right (wholeSpacing_pos n),
      roundQuotient_lt_iff (wholeSpacing_pos n) (by norm_num), hspacing, Nat.add_sub_cancel_left,
      Nat.pow_add]
    have hleft : 2 * (n * unitsOfOne) + 2 * 2 ^ p * unitsOfOne
        = (n + 2 ^ p) * (2 * unitsOfOne) := by ring
    have hright : 2 * (2 ^ 53 * (2 * 2 ^ p * unitsOfOne)) = 2 ^ 54 * 2 ^ p * (2 * unitsOfOne) := by
      ring
    rw [hleft, hright, Nat.mul_lt_mul_right (by omega)]
  · -- the number has reached the power of two
    have hreached : 2 ^ e ≤ 2 ^ n.log2 := Nat.pow_le_pow_right (by decide) (by omega)
    have habove := Nat.le_trans (Nat.mul_le_mul_right unitsOfOne hreached) (le_wholeUnits hn)
    have hn' := Nat.log2_self_le hn
    exact iff_of_false (Nat.not_lt.mpr habove)
      (Nat.not_lt.mpr ((hreached.trans hn').trans (Nat.le_add_right n _)))

/-! ### Integers -/

section

variable {m : Int}

/-- The nearest number to a positive integer has the positive sign. -/
theorem ofInt_of_pos (hm : 0 < m) : ofInt m = ofUnits false (wholeUnits m.toNat) := by
  have hsign : ¬ m < 0 := Int.not_lt.mpr hm.le
  have hsize : m.natAbs = m.toNat := by omega
  rw [ofInt_eq, decide_eq_false hsign, hsize]

/-- A positive integer is rounded below a power of two exactly if it is below the middle. -/
theorem wholeUnits_toNat_lt_iff {e : Nat} (he : 54 ≤ e) (hm : 0 < m) :
    wholeUnits m.toNat < 2 ^ e * unitsOfOne ↔ m + 2 ^ (e - 54) < 2 ^ e := by
  obtain ⟨k, rfl⟩ := Int.eq_ofNat_of_zero_le hm.le
  rw [Int.toNat_natCast, wholeUnits_lt_iff he (by omega)]
  norm_cast

/-- From the power of two at which the format ends a magnitude counts as infinite. -/
theorem overflowUnits_eq : overflowUnits = 2 ^ 1024 * unitsOfOne := by
  unfold overflowUnits
  rw [unitsOfOne_eq, ← Nat.pow_add]
  generalize 1024 + unitBits = bits
  rfl

/-- A positive integer that is rounded below the end of the format is finite. -/
theorem ofInt_of_lt (hm : 0 < m) (h : m + 2 ^ (1024 - 54) < 2 ^ 1024) :
    ofInt m = finite false (wholeUnits m.toNat) := by
  rw [ofInt_of_pos hm, ofUnits, if_pos]
  rw [overflowUnits_eq]
  exact (wholeUnits_toNat_lt_iff (by decide) hm).mpr h

/-- A positive integer that is rounded beyond the end of the format becomes infinite. -/
theorem ofInt_of_not_lt (hm : 0 < m) (h : ¬ m + 2 ^ (1024 - 54) < 2 ^ 1024) :
    ofInt m = infinite false := by
  rw [ofInt_of_pos hm, ofUnits, if_neg]
  rw [overflowUnits_eq]
  exact fun hlt => h ((wholeUnits_toNat_lt_iff (by decide) hm).mp hlt)

end

end PlainScan.Binary64
