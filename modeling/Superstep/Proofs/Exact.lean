import Mathlib
import Superstep.Value.Basic

/-!
# Whole numbers that doubles hold exactly

A whole number `m · 2^q` whose significand `m` has exactly 53 bits, at a scale of a normal double
(`Binary64.Normal`), is a double: rounding it gives back `encode neg m q`
(`Binary64.Scaled.round`), which converts back to the same whole number. Every natural number up
to `2^53` has such a form (`Binary64.exists_scaled`), so:

* an integer of magnitude at most `2^53` converts to a double and back unchanged
  (`Binary64.truncSat_ofInt`), and the double is written as that integer in plain JSON;
* an integral double below `2^63` in magnitude converts to an integer and back to a double equal
  to it (`Binary64.numEq_ofInt_truncSat`); only a negative zero comes back positive.
-/

namespace Superstep

namespace Binary64

/-! ## Normal significands and scales -/

/-- A significand of exactly 53 bits and the scale of a normal double. -/
structure Normal (m : Nat) (q : Int) : Prop where
  low : 2 ^ 52 ≤ m
  high : m < 2 ^ 53
  scale_low : -1074 ≤ q
  scale_high : q ≤ 971

/-- `m · 2^q` is the whole number `n`: `n = m · 2^t`, or `n · 2^j = m` for `q = -j`. -/
inductive Scaled : Nat → Int → Nat → Prop
  | up (m t : Nat) : Scaled m t (m * 2 ^ t)
  | down (n j : Nat) : Scaled (n * 2 ^ j) (-j) n

section Normal

variable {m : Nat} {q : Int}

theorem Normal.pos (h : Normal m q) : 0 < m := lt_of_lt_of_le (by positivity) h.low

theorem Normal.encode_fields (h : Normal m q) (neg : Bool) :
    (encode neg m q).neg = neg ∧ (encode neg m q).exp.val = (q + 1075).toNat ∧
      (encode neg m q).frac.val = m % 2 ^ 52 := by
  have hsub : ¬m < Nat.pow 2 52 := by simpa using h.low.not_gt
  have he : (q + 1075).toNat < 2048 := by have := h.scale_high; omega
  simp [encode, not_lt.2 h.scale_high, hsub, he]

@[simp] theorem Normal.neg_encode (h : Normal m q) (neg : Bool) : (encode neg m q).neg = neg :=
  (h.encode_fields neg).1

theorem Normal.exp_encode_ne_zero (h : Normal m q) (neg : Bool) :
    (encode neg m q).exp.val ≠ 0 := by
  rw [(h.encode_fields neg).2.1]
  have := h.scale_low
  omega

@[simp] theorem Normal.isFinite_encode (h : Normal m q) (neg : Bool) :
    (encode neg m q).isFinite = true := by
  have hq := h.scale_high
  simp only [isFinite, (h.encode_fields neg).2.1, bne_iff_ne]
  omega

@[simp] theorem Normal.isNaN_encode (h : Normal m q) (neg : Bool) :
    (encode neg m q).isNaN = false := by
  have := h.isFinite_encode neg
  simp only [isFinite, bne_iff_ne, ne_eq] at this
  simp [isNaN, this]

@[simp] theorem Normal.isInfinite_encode (h : Normal m q) (neg : Bool) :
    (encode neg m q).isInfinite = false := by
  have := h.isFinite_encode neg
  simp only [isFinite, bne_iff_ne, ne_eq] at this
  simp [isInfinite, this]

@[simp] theorem Normal.significand_encode (h : Normal m q) (neg : Bool) :
    (encode neg m q).significand = m := by
  have hlo := h.low
  have hhi := h.high
  simp only [significand, h.exp_encode_ne_zero neg, if_false, (h.encode_fields neg).2.2,
    Nat.pow_eq]
  omega

@[simp] theorem Normal.scale_encode (h : Normal m q) (neg : Bool) : (encode neg m q).scale = q := by
  have hq := h.scale_low
  simp only [scale, (h.encode_fields neg).2.1]
  omega

theorem ext_of_fields {x y : Binary64} (hneg : x.neg = y.neg) (hexp : x.exp.val = y.exp.val)
    (hfrac : x.frac.val = y.frac.val) : x = y := by
  rcases x with ⟨_, _, _⟩
  rcases y with ⟨_, _, _⟩
  simp only at hneg hexp hfrac
  subst hneg
  congr <;> exact Fin.ext ‹_›

/-- A finite double with a nonzero exponent field is `encode` of its own significand and scale. -/
theorem normal_of_exp {x : Binary64} (hx : x.isFinite = true) (he : x.exp.val ≠ 0) :
    Normal x.significand x.scale ∧ encode x.neg x.significand x.scale = x := by
  have hf : x.frac.val < 2 ^ 52 := by simp
  have hfin : x.exp.val ≠ 2047 := by simpa [isFinite] using hx
  have hexp := x.exp.isLt
  have hsig : x.significand = x.frac.val + 2 ^ 52 := by simp [significand, he]
  have hscale : x.scale = (x.exp.val : Int) - 1075 := by simp [scale, he]
  have hn : Normal x.significand x.scale := by
    rw [hsig, hscale]
    exact ⟨by omega, by omega, by omega, by omega⟩
  obtain ⟨hneg, hexp', hfrac⟩ := hn.encode_fields x.neg
  refine ⟨hn, ext_of_fields hneg ?_ ?_⟩
  · rw [hexp', hscale]
    omega
  · rw [hfrac, hsig]
    omega

end Normal

/-! ## Rounding a number that is a double already -/

theorem log2_eq_of_bounds {n t : Nat} (lo : 2 ^ t ≤ n) (hi : n < 2 ^ (t + 1)) : n.log2 = t := by
  have hn : n ≠ 0 := by have := Nat.one_le_two_pow (n := t); omega
  have h1 := (Nat.le_log2 hn).2 lo
  have h2 := (Nat.log2_lt hn).2 hi
  omega

theorem floorLog2_one {n : Nat} (hn : n ≠ 0) : floorLog2 n 1 = n.log2 := by
  have hle : 2 ^ n.log2 ≤ n := Nat.log2_self_le hn
  have h1 : Nat.log2 1 = 0 := by simpa using Nat.log2_two_pow (n := 0)
  simp [floorLog2, atLeastPow2, h1, hle]

theorem roundHalfEven_mul (m : Nat) {b : Nat} (hb : 0 < b) : roundHalfEven (m * b) b = m := by
  simp [roundHalfEven, Nat.mul_div_cancel _ hb, hb]

/-- Rounding `n` gives `encode neg m q` once the scale the rounding picks is `q` and the quotient
it rounds is exactly `m`. -/
theorem round_eq_encode {n m b : Nat} {q : Int} (h : Normal m q) (hn : n ≠ 0)
    (hlog : (n.log2 : Int) = q + 52) (hb : 0 < b)
    (hsf : scaledFraction n (-q) 1 = (m * b, b)) (neg : Bool) :
    round neg n 0 1 = encode neg m q := by
  have hq : max ((n.log2 : Int) - 52) (-1074) = q := by have := h.scale_low; omega
  have hm : m ≠ Nat.pow 2 53 := by have := h.high; simp only [Nat.pow_eq]; omega
  have h0 : scaledFraction n 0 (max 1 1) = (n, 1) := by simp [scaledFraction]
  simp only [Binary64.round, h0, hn, if_false, floorLog2_one hn, hq, hsf, roundHalfEven_mul m hb,
    hm]

section Scaled

variable {m : Nat} {q : Int} {n : Nat}

theorem log2_scaled (h : Normal m q) (hs : Scaled m q n) :
    (n.log2 : Int) = q + 52 := by
  have hlo := h.low
  have hhi := h.high
  cases hs with
  | up m t =>
    have : (m * 2 ^ t).log2 = t + 52 := by
      apply log2_eq_of_bounds
      · rw [Nat.pow_add, Nat.mul_comm]
        exact Nat.mul_le_mul_right _ hlo
      · rw [show t + 52 + 1 = 53 + t by omega, Nat.pow_add]
        exact Nat.mul_lt_mul_of_pos_right hhi (by positivity)
    simp [this]
  | down n j =>
    have hj : j ≤ 52 := by
      by_contra hj
      have : 2 ^ 53 ≤ n * 2 ^ j := by
        have hn : 0 < n := by
          rcases Nat.eq_zero_or_pos n with rfl | hn
          · simp at hlo
          · exact hn
        calc 2 ^ 53 ≤ 2 ^ j := Nat.pow_le_pow_right (by decide) (by omega)
          _ ≤ n * 2 ^ j := Nat.le_mul_of_pos_left _ hn
      omega
    have : n.log2 = 52 - j := by
      apply log2_eq_of_bounds
      · have h52 : 2 ^ (52 - j) * 2 ^ j = 2 ^ 52 := by rw [← Nat.pow_add]; congr 1; omega
        exact Nat.le_of_mul_le_mul_right (h52 ▸ hlo) (by positivity)
      · have h53 : 2 ^ (52 - j + 1) * 2 ^ j = 2 ^ 53 := by rw [← Nat.pow_add]; congr 1; omega
        exact Nat.lt_of_mul_lt_mul_right (h53 ▸ hhi)
    simp only [this]
    omega

theorem scaledFraction_natCast (x t : Nat) : scaledFraction x t 1 = (x * 2 ^ t, 1) := by
  simp [scaledFraction]

theorem scaledFraction_neg_natCast (x t : Nat) :
    ∃ b, 0 < b ∧ scaledFraction (x * 2 ^ t) (-t) 1 = (x * b, b) := by
  rcases Nat.eq_zero_or_pos t with rfl | ht
  · exact ⟨1, Nat.one_pos, by simp [scaledFraction]⟩
  · have : ¬(0 : Int) ≤ -(t : Int) := by omega
    exact ⟨2 ^ t, by positivity, by rw [scaledFraction, if_neg this]; simp⟩

/-- The fraction rounding looks at, at the scale of `m`, is `m` over a power of two. -/
theorem Scaled.scaledFraction_up (hs : Scaled m q n) :
    ∃ b, 0 < b ∧ scaledFraction n (-q) 1 = (m * b, b) := by
  cases hs with
  | up m t => exact scaledFraction_neg_natCast m t
  | down n j => exact ⟨1, Nat.one_pos, by simp [scaledFraction_natCast]⟩

/-- The exact value of `m · 2^q`, as a fraction, is `n`. -/
theorem Scaled.scaledFraction_down (hs : Scaled m q n) :
    ∃ b, 0 < b ∧ scaledFraction m q 1 = (n * b, b) := by
  cases hs with
  | up m t => exact ⟨1, Nat.one_pos, by simp [scaledFraction_natCast]⟩
  | down n j => exact scaledFraction_neg_natCast n j

theorem Scaled.pos (hs : Scaled m q n) (h : Normal m q) : 0 < n := by
  cases hs with
  | up m t => exact Nat.mul_pos h.pos (by positivity)
  | down n j =>
    rcases Nat.eq_zero_or_pos n with rfl | hn
    · simpa using h.pos
    · exact hn

/-- **A double rounds to itself.** A whole number that is `m · 2^q` for a normal significand and
scale rounds to the double `encode neg m q`. -/
theorem Scaled.round (hs : Scaled m q n) (h : Normal m q)
    (neg : Bool) : round neg n 0 1 = encode neg m q := by
  obtain ⟨b, hb, hsf⟩ := hs.scaledFraction_up
  exact round_eq_encode h (hs.pos h).ne' (log2_scaled h hs) hb hsf neg

/-! ## The whole number a double holds -/

theorem Scaled.truncMagnitude (hs : Scaled m q n) (h : Normal m q)
    (neg : Bool) : (encode neg m q).truncMagnitude = n := by
  rw [Binary64.truncMagnitude, h.significand_encode, h.scale_encode]
  cases hs with
  | up m t => simp
  | down n j =>
    rcases Nat.eq_zero_or_pos j with rfl | hj
    · simp
    · have : ¬(0 : Int) ≤ -(j : Int) := by omega
      rw [if_neg this]
      simp [Nat.mul_div_cancel _ (by positivity : 0 < 2 ^ j)]

theorem Scaled.isIntegral (hs : Scaled m q n) (h : Normal m q)
    (neg : Bool) : (encode neg m q).isIntegral = true := by
  simp only [Binary64.isIntegral, h.isFinite_encode, h.significand_encode, h.scale_encode,
    Bool.true_and, Bool.or_eq_true, decide_eq_true_eq, beq_iff_eq]
  cases hs with
  | up m t => exact .inl (by omega)
  | down n j => exact .inr (by simp [Nat.pow_eq])

/-- The double `m · 2^q` is below `2^k` in magnitude exactly when the whole number it holds is. -/
theorem Scaled.magnitudeBelowPow2_iff {k : Nat} (hs : Scaled m q n)
    (h : Normal m q) (neg : Bool) : (encode neg m q).magnitudeBelowPow2 k = true ↔ n < 2 ^ k := by
  obtain ⟨b, hb, hsf⟩ := hs.scaledFraction_down
  have hn : n ≠ 0 := (hs.pos h).ne'
  have hiff : b * 2 ^ k ≤ n * b ↔ 2 ^ k ≤ n := by
    rw [Nat.mul_comm n b]
    exact Nat.mul_le_mul_left_iff hb
  simp [Binary64.magnitudeBelowPow2, h.isFinite_encode, h.significand_encode, h.scale_encode, hsf,
    atLeastPow2, hn, hb.ne', hiff]

/-- Every natural number from `1` to `2^53` is `m · 2^q` for a normal significand and scale. -/
theorem exists_scaled (h0 : 0 < n) (hn : n ≤ 2 ^ 53) :
    ∃ m q, Normal m q ∧ Scaled m q n := by
  rcases Nat.lt_or_ge n (2 ^ 53) with hlt | hge
  · have hlog : n.log2 < 53 := (Nat.log2_lt h0.ne').2 hlt
    have hlo : 2 ^ n.log2 ≤ n := Nat.log2_self_le h0.ne'
    have hhi : n < 2 ^ (n.log2 + 1) := Nat.lt_log2_self
    refine ⟨n * 2 ^ (52 - n.log2), -((52 - n.log2 : Nat) : Int), ⟨?_, ?_, by omega, by omega⟩,
      .down n _⟩
    · calc 2 ^ 52 = 2 ^ n.log2 * 2 ^ (52 - n.log2) := by rw [← Nat.pow_add]; congr 1; omega
        _ ≤ n * 2 ^ (52 - n.log2) := Nat.mul_le_mul_right _ hlo
    · calc n * 2 ^ (52 - n.log2) < 2 ^ (n.log2 + 1) * 2 ^ (52 - n.log2) :=
            Nat.mul_lt_mul_of_pos_right hhi (by positivity)
        _ = 2 ^ 53 := by rw [← Nat.pow_add]; congr 1; omega
  · have : n = 2 ^ 52 * 2 ^ 1 := by rw [← Nat.pow_add]; omega
    exact ⟨2 ^ 52, 1, ⟨le_refl _, by norm_num, by norm_num, by norm_num⟩, this ▸ .up _ 1⟩

/-- An integral finite double holds the whole number it truncates to. -/
theorem scaled_of_isIntegral {x : Binary64} (hint : x.isIntegral = true) :
    Scaled x.significand x.scale x.truncMagnitude := by
  rcases le_or_gt 0 x.scale with h0 | h0
  · obtain ⟨t, ht⟩ := Int.eq_ofNat_of_zero_le h0
    have htm : x.truncMagnitude = x.significand * 2 ^ t := by
      simp [Binary64.truncMagnitude, ht]
    rw [htm, ht]
    exact .up _ t
  · obtain ⟨j, hj⟩ := Int.exists_eq_neg_ofNat h0.le
    have hj0 : j ≠ 0 := by omega
    have hdvd : x.significand % 2 ^ j = 0 :=
      (by simpa [Binary64.isIntegral, hj] using hint : _ ∧ (j = 0 ∨ _)).2.resolve_left hj0
    have htm : x.truncMagnitude = x.significand / 2 ^ j := by
      simp [Binary64.truncMagnitude, hj, hj0]
    have h := Scaled.down (x.significand / 2 ^ j) j
    rwa [Nat.div_mul_cancel (Nat.dvd_of_mod_eq_zero hdvd), ← hj, ← htm] at h

/-! ## Integers through doubles -/

/-- The conversion to a 64-bit integer of a double that holds a whole number below `2^63`. -/
theorem Scaled.truncSat (hs : Scaled m q n) (h : Normal m q)
    (hn : n < 2 ^ 63) (neg : Bool) :
    (encode neg m q).truncSat 64 = if neg then -(n : Int) else n := by
  have hp : Int.pow 2 63 = 2 ^ 63 := by norm_num
  simp only [Binary64.truncSat, h.isNaN_encode, h.isInfinite_encode, hs.truncMagnitude h,
    h.neg_encode, show 64 - 1 = 63 from rfl, hp, Bool.false_eq_true, if_false]
  have : (n : Int) < 2 ^ 63 := by exact_mod_cast hn
  cases neg <;> simp <;> omega

/-- A double that holds a whole number below `2^63` converts to an integer and back to itself. -/
theorem Scaled.ofInt_truncSat (hs : Scaled m q n) (h : Normal m q)
    (hn : n < 2 ^ 63) (neg : Bool) : ofInt ((encode neg m q).truncSat 64) = encode neg m q := by
  have hpos := hs.pos h
  have hsign : decide ((if neg then -(n : Int) else n) < 0) = neg := by
    cases neg
    · simp
    · simp only [if_true, decide_eq_true_eq]
      omega
  have habs : (if neg then -(n : Int) else n).natAbs = n := by cases neg <;> simp
  rw [hs.truncSat h hn, ofInt, hsign, habs, hs.round h neg]

end Scaled

theorem ofInt_zero : ofInt 0 = zero := rfl

@[simp] theorem isIntegral_zero : zero.isIntegral = true := by
  simp [Binary64.isIntegral, zero, isFinite, significand, scale]

@[simp] theorem magnitudeBelowPow2_zero (k : Nat) : zero.magnitudeBelowPow2 k = true := by
  simp [Binary64.magnitudeBelowPow2, zero, isFinite, significand, scale, scaledFraction]

@[simp] theorem truncSat_zero : zero.truncSat 64 = 0 := by
  simp [Binary64.truncSat, zero, isNaN, isInfinite, Binary64.truncMagnitude, significand, scale]

/-- **Small integers are exact.** An integer of magnitude at most `2^53` converts to a double
that is integral, below `2^63`, and converts back to the same integer. -/
theorem truncSat_ofInt {i : Int} (hi : i.natAbs ≤ 2 ^ 53) :
    (ofInt i).isIntegral = true ∧ (ofInt i).magnitudeBelowPow2 63 = true ∧
      (ofInt i).truncSat 64 = i := by
  rcases eq_or_ne i 0 with rfl | h0
  · simp [ofInt_zero]
  obtain ⟨m, q, hn, hs⟩ := exists_scaled (Int.natAbs_pos.2 h0) hi
  have h63 : i.natAbs < 2 ^ 63 := lt_of_le_of_lt hi (by norm_num)
  have he : ofInt i = encode (decide (i < 0)) m q := hs.round hn _
  rw [he]
  refine ⟨hs.isIntegral hn _, (hs.magnitudeBelowPow2_iff hn _).2 h63, ?_⟩
  rw [hs.truncSat hn h63]
  by_cases hneg : i < 0
  · simp only [hneg, decide_true, if_true]
    omega
  · simp only [hneg, decide_false, Bool.false_eq_true, if_false]
    omega

theorem isNaN_of_isFinite {x : Binary64} (hx : x.isFinite = true) : x.isNaN = false := by
  simp only [isFinite, bne_iff_ne, ne_eq] at hx
  simp [isNaN, hx]

theorem numEq_self {x : Binary64} (hx : x.isNaN = false) : x.numEq x = true := by
  simp [numEq, hx]

/-- **Integral doubles are exact.** An integral double below `2^63` in magnitude converts to an
integer and back to a double numerically equal to it. -/
theorem numEq_ofInt_truncSat {x : Binary64} (hx : x.isFinite = true) (hint : x.isIntegral = true)
    (hbelow : x.magnitudeBelowPow2 63 = true) : (ofInt (x.truncSat 64)).numEq x = true := by
  have hnan := isNaN_of_isFinite hx
  rcases Nat.eq_zero_or_pos x.exp.val with he | he
  · have hfrac : x.frac.val = 0 := by
      have hf52 : x.frac.val < 2 ^ 52 := by simp
      have hf : x.frac.val < 2 ^ 1074 :=
        lt_of_lt_of_le hf52 (Nat.pow_le_pow_right (by norm_num) (by norm_num))
      have : x.frac.val % 2 ^ 1074 = 0 := by
        simpa [Binary64.isIntegral, hx, scale, significand, he] using hint
      rwa [Nat.mod_eq_of_lt hf] at this
    have htrunc : x.truncSat 64 = 0 := by
      simp [Binary64.truncSat, hnan, isInfinite, he, Binary64.truncMagnitude, significand, scale,
        hfrac]
    rw [htrunc, ofInt_zero]
    simp [numEq, zero, isNaN, isZero, he, hfrac]
  · obtain ⟨hn, henc⟩ := normal_of_exp hx he.ne'
    have hs := scaled_of_isIntegral hint
    have h63 : x.truncMagnitude < 2 ^ 63 := by
      rw [← hs.magnitudeBelowPow2_iff hn x.neg, henc]
      exact hbelow
    have := hs.ofInt_truncSat hn h63 x.neg
    rw [henc] at this
    rw [this]
    exact numEq_self hnan

end Binary64

end Superstep
