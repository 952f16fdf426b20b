import QuestScript.Proofs.Number.Numeral

/-!
# Numerals that stand for a number

The largest number has a mantissa of 53 ones and the exponent 971.  A numeral stands for a number as
long as it is nearer to that one than to `2 ^ 1024`; half way between them the even mantissa is that
of `2 ^ 1024`, so from `2 ^ 1024 - 2 ^ 970` on there is no number.

* `Numeral.le_roundHalfEven_iff`  when rounding reaches an even number;
* `Numeral.overflow`              the least size that is too large;
* `Numeral.wholeNearest?_eq_none_iff`  a fraction of that size or more has no nearest number;
* `Numeral.IsFinite`              the numerals below that size;
* `Numeral.whole?_eq_none_iff`    they are those that have a whole part.
-/

namespace QuestScript.Numeral

/-! ## rounding -/

theorem roundHalfEven_cases (num den : Nat) :
    (roundHalfEven num den = num / den ∧ 2 * (num % den) ≤ den ∧
      (2 * (num % den) = den → num / den % 2 = 0)) ∨
    (roundHalfEven num den = num / den + 1 ∧ den ≤ 2 * (num % den)) := by
  unfold roundHalfEven
  dsimp only
  split
  · next h =>
    simp at h
    right
    omega
  · next h =>
    simp at h
    left
    omega

/-- an even number is reached from half a unit below it -/
theorem le_roundHalfEven_iff {num den k : Nat} (hden : 0 < den) (hk : k % 2 = 0) :
    k ≤ roundHalfEven num den ↔ 2 * (k * den) ≤ 2 * num + den := by
  have hdiv := Nat.div_add_mod' num den
  have hmod := Nat.mod_lt num hden
  have hround := roundHalfEven_cases num den
  generalize num / den = q at *
  generalize num % den = r at *
  rcases Nat.lt_trichotomy k (q + 1) with h | h | h
  · have := Nat.mul_le_mul_right den (Nat.le_of_lt_succ h)
    omega
  · rw [h, Nat.succ_mul q den]
    omega
  · have := Nat.mul_le_mul_right den (show q + 1 + 1 ≤ k from h)
    rw [Nat.succ_mul (q + 1), Nat.succ_mul q] at this
    omega

/-! ## the exponent -/

/-- **at the exponent of a fraction** that is not below one, its mantissa has 53 bits -/
theorem le_of_binaryExponent {num den e : Nat} (h : binaryExponent num den = e) :
    den * 2 ^ (e + 52) ≤ num := by
  unfold binaryExponent at h
  dsimp only at h
  generalize hb : (num.log2 : Int) - den.log2 = b at h
  by_cases hsign : 0 ≤ b
  · rw [if_pos hsign] at h
    split at h
    · next hreaches =>
      have hle : den * 2 ^ b.toNat ≤ num := by simpa using hreaches
      rwa [show e + 52 = b.toNat by omega]
    · have hsum : num.log2 = den.log2 + 1 + (e + 52) := by omega
      have hnum : num ≠ 0 := by
        rintro rfl
        rw [Nat.log2_zero] at hsum
        omega
      calc den * 2 ^ (e + 52) ≤ 2 ^ (den.log2 + 1) * 2 ^ (e + 52) :=
            Nat.mul_le_mul_right _ Nat.lt_log2_self.le
        _ = 2 ^ num.log2 := by rw [hsum, ← Nat.pow_add]
        _ ≤ num := Nat.log2_self_le hnum
  · rw [if_neg hsign] at h
    split at h <;> omega

/-! ## fractions that are too large -/

theorem two_pow_of_add {i j k : Nat} (h : k = i + j) : 2 ^ k = 2 ^ i * 2 ^ j := by
  rw [h, Nat.pow_add]

theorem two_pow_le {i j : Nat} (h : i ≤ j) : 2 ^ i ≤ 2 ^ j := Nat.pow_le_pow_right (by decide) h

/-- the largest number and half a unit of its last digit, which is `2 ^ 1024 - 2 ^ 970` -/
@[irreducible] def overflow : Nat := (2 ^ 54 - 1) * 2 ^ 970

theorem two_pow_lt_overflow {i : Nat} (hi : i ≤ 1023) : 2 ^ i < overflow := by
  have hle := two_pow_le hi
  rw [two_pow_of_add (k := 1023) (i := 53) (j := 970) rfl] at hle
  have hpos := Nat.two_pow_pos 970
  unfold overflow
  generalize 2 ^ 970 = half at *
  omega

theorem overflow_pos : 0 < overflow := Nat.zero_lt_of_lt (two_pow_lt_overflow (Nat.zero_le 1023))

theorem overflow_lt_two_pow {i : Nat} (hi : 1024 ≤ i) : overflow < 2 ^ i := by
  have hle := two_pow_le hi
  rw [two_pow_of_add (k := 1024) (i := 54) (j := 970) rfl] at hle
  have hpos := Nat.two_pow_pos 970
  unfold overflow
  generalize 2 ^ 970 = half at *
  omega

section
variable {num den e : Nat} (hden : 0 < den)
include hden

/-- a fraction with an exponent below the last one is not too large -/
theorem lt_of_exponent_lt (he : e ≤ 970) (hhigh : num < den * 2 ^ (e + 53)) :
    roundHalfEven num (den * 2 ^ e) * 2 ^ e < 2 ^ 1024 ∧ num < overflow * den := by
  have hdigit : 0 < den * 2 ^ e := Nat.mul_pos hden (Nat.two_pow_pos e)
  have hround : roundHalfEven num (den * 2 ^ e) ≤ 2 ^ 53 := by
    refine roundHalfEven_le hdigit ?_
    rwa [Nat.mul_assoc, ← Nat.pow_add]
  have htop : 2 ^ (e + 53) < overflow := two_pow_lt_overflow (by omega)
  constructor
  · calc roundHalfEven num (den * 2 ^ e) * 2 ^ e ≤ 2 ^ 53 * 2 ^ e := Nat.mul_le_mul_right _ hround
      _ = 2 ^ (e + 53) := (two_pow_of_add (Nat.add_comm e 53)).symm
      _ < 2 ^ 1024 := Nat.pow_lt_pow_right (by decide) (by omega)
  · calc num < den * 2 ^ (e + 53) := hhigh
      _ ≤ den * overflow := Nat.mul_le_mul_left den htop.le
      _ = overflow * den := Nat.mul_comm _ _

/-- at the last exponent the fraction is too large if its mantissa is rounded up to 54 bits -/
theorem overflow_le_iff_of_exponent_eq (he : e = 971) :
    2 ^ 1024 ≤ roundHalfEven num (den * 2 ^ e) * 2 ^ e ↔ overflow * den ≤ num := by
  have hdigit : 0 < den * 2 ^ e := Nat.mul_pos hden (Nat.two_pow_pos e)
  have hlast : 2 ^ e = 2 * 2 ^ 970 := by
    rw [two_pow_of_add (i := 1) (j := 970) he, Nat.pow_one]
  have htop : 2 ^ 53 ≤ roundHalfEven num (den * 2 ^ e) ↔ overflow * den ≤ num := by
    rw [le_roundHalfEven_iff hdigit (by decide), hlast]
    unfold overflow
    rw [Nat.mul_assoc, Nat.mul_comm (2 ^ 970) den, Nat.mul_left_comm den 2 (2 ^ 970)]
    generalize den * 2 ^ 970 = half
    omega
  rw [← htop, two_pow_of_add (k := 1024) (i := 53) (j := e) (by omega)]
  exact Nat.mul_le_mul_right_iff (Nat.two_pow_pos e)

/-- a fraction with an exponent beyond the last one is too large -/
theorem le_of_lt_exponent (he : 971 < e) (hlow : den * 2 ^ (e + 52) ≤ num) :
    2 ^ 1024 ≤ roundHalfEven num (den * 2 ^ e) * 2 ^ e ∧ overflow * den ≤ num := by
  have hdigit : 0 < den * 2 ^ e := Nat.mul_pos hden (Nat.two_pow_pos e)
  have hround : 2 ^ 52 ≤ roundHalfEven num (den * 2 ^ e) := by
    rw [le_roundHalfEven_iff hdigit (by decide)]
    have hmantissa : 2 ^ 52 * (den * 2 ^ e) = den * 2 ^ (e + 52) := by
      rw [Nat.pow_add]
      ring
    omega
  constructor
  · calc 2 ^ 1024 ≤ 2 ^ (52 + e) := two_pow_le (by omega)
      _ = 2 ^ 52 * 2 ^ e := Nat.pow_add 2 52 e
      _ ≤ roundHalfEven num (den * 2 ^ e) * 2 ^ e := Nat.mul_le_mul_right _ hround
  · calc overflow * den = den * overflow := Nat.mul_comm _ _
      _ ≤ den * 2 ^ (e + 52) := Nat.mul_le_mul_left den (overflow_lt_two_pow (by omega)).le
      _ ≤ num := hlow

/-- **a fraction is too large** from half way between the largest number and the next power of two
on -/
theorem wholeNearest?_eq_none_iff : wholeNearest? num den = none ↔ overflow * den ≤ num := by
  unfold wholeNearest?
  dsimp only
  split
  · next he =>
    obtain ⟨e, he⟩ := Int.eq_ofNat_of_zero_le he
    have hhigh : num < den * 2 ^ (e + 53) := by
      simpa using lt_of_binaryExponent num (i := e) (j := 0) hden.ne' (by omega)
    have hlow := le_of_binaryExponent he
    rw [he, Int.toNat_natCast, ite_eq_right_iff]
    simp only [Nat.pow_eq, reduceCtorEq, imp_false, Nat.not_lt]
    rcases Nat.lt_trichotomy e 971 with h | h | h
    · obtain ⟨hround, hnum⟩ := lt_of_exponent_lt hden (Nat.le_of_lt_succ h) hhigh
      exact iff_of_false (Nat.not_le.mpr hround) (Nat.not_le.mpr hnum)
    · exact overflow_le_iff_of_exponent_eq hden h
    · obtain ⟨hround, hnum⟩ := le_of_lt_exponent hden h hlow
      exact iff_of_true hround hnum
  · next he =>
    have hlt := lt_of_binaryExponent num (i := 0) (j := (-binaryExponent num den).toNat) hden.ne'
      (by omega)
    have htop : 2 ^ (0 + 53) < overflow := two_pow_lt_overflow (by omega)
    refine iff_of_false nofun (Nat.not_le.mpr ?_)
    calc num ≤ num * 2 ^ (-binaryExponent num den).toNat :=
          Nat.le_mul_of_pos_right num (Nat.two_pow_pos _)
      _ < den * 2 ^ (0 + 53) := hlt
      _ ≤ den * overflow := Nat.mul_le_mul_left den htop.le
      _ = overflow * den := Nat.mul_comm _ _

end

/-! ## numerals -/

/-- the numeral is nearer to the largest number, or to a smaller one, than to the next power of two
beyond it -/
def IsFinite (n : Numeral) : Prop :=
  n.digits * 10 ^ n.exponent.toNat < overflow * 10 ^ (-n.exponent).toNat

instance (n : Numeral) : Decidable n.IsFinite := inferInstanceAs (Decidable (_ < _))

/-- a number by the number of its digits -/
theorem length_ofNat_bounds {n : Nat} (hn : n ≠ 0) :
    n < 10 ^ (Text.ofNat n).length ∧ 10 ^ ((Text.ofNat n).length - 1) ≤ n := by
  have hpos : 0 < (Text.ofNat n).length := List.length_pos_iff.mpr Nat.toDigits_ne_nil
  have hiff {k : Nat} (hk : 0 < k) : (Text.ofNat n).length ≤ k ↔ n < 10 ^ k :=
    Nat.length_toDigits_le_iff (by decide) hk
  refine ⟨(hiff hpos).mp le_rfl, ?_⟩
  by_cases hone : (Text.ofNat n).length = 1
  · rw [hone]
    exact Nat.one_le_iff_ne_zero.mpr hn
  · have := mt (hiff (k := (Text.ofNat n).length - 1) (by omega)).mpr (by omega)
    exact Nat.not_lt.mp this

theorem overflow_lt_ten_pow : overflow < 10 ^ 320 :=
  calc overflow < 2 ^ 1024 := overflow_lt_two_pow le_rfl
    _ ≤ 10 ^ 320 := by decide +kernel

theorem ten_pow_pos (i : Nat) : 0 < 10 ^ i := Nat.pow_pos (by decide)

section
variable {digits k : Nat} {e : Int}

/-- a numeral with more than 320 digits before its point is too large -/
theorem overflow_le_of_point (hdigits : 10 ^ (k - 1) ≤ digits) (h : 320 < k + e) :
    overflow * 10 ^ (-e).toNat ≤ digits * 10 ^ e.toNat :=
  calc overflow * 10 ^ (-e).toNat ≤ 10 ^ 320 * 10 ^ (-e).toNat :=
        Nat.mul_le_mul_right _ overflow_lt_ten_pow.le
    _ = 10 ^ (320 + (-e).toNat) := (Nat.pow_add 10 _ _).symm
    _ ≤ 10 ^ (k - 1 + e.toNat) := Nat.pow_le_pow_right (by decide) (by omega)
    _ = 10 ^ (k - 1) * 10 ^ e.toNat := Nat.pow_add 10 _ _
    _ ≤ digits * 10 ^ e.toNat := Nat.mul_le_mul_right _ hdigits

/-- a numeral with its point before its first digit is not too large -/
theorem lt_overflow_of_point (hdigits : digits < 10 ^ k) (h : k + e < 0) :
    digits * 10 ^ e.toNat < overflow * 10 ^ (-e).toNat :=
  calc digits * 10 ^ e.toNat < 10 ^ k * 10 ^ e.toNat :=
        Nat.mul_lt_mul_of_pos_right hdigits (ten_pow_pos _)
    _ = 10 ^ (k + e.toNat) := (Nat.pow_add 10 _ _).symm
    _ ≤ 10 ^ (-e).toNat := Nat.pow_le_pow_right (by decide) (by omega)
    _ ≤ overflow * 10 ^ (-e).toNat := Nat.le_mul_of_pos_left _ overflow_pos

end

theorem magnitude?_eq_none_iff (n : Numeral) : n.magnitude? = none ↔ ¬n.IsFinite := by
  unfold magnitude? IsFinite
  rw [Nat.not_lt]
  dsimp only
  split
  · next hzero =>
    have hdigits : n.digits = 0 := by simpa using hzero
    rw [hdigits, Nat.zero_mul]
    exact iff_of_false nofun (Nat.not_le.mpr (Nat.mul_pos overflow_pos (ten_pow_pos _)))
  · next hzero =>
    have hdigits : n.digits ≠ 0 := by simpa using hzero
    obtain ⟨hlt, hle⟩ := length_ofNat_bounds hdigits
    split
    · next hlarge => exact iff_of_true rfl (overflow_le_of_point hle hlarge)
    · split
      · next hsmall =>
        exact iff_of_false nofun (Nat.not_le.mpr (lt_overflow_of_point hlt (by omega)))
      · split
        · next hexponent =>
          have hneg : (-n.exponent).toNat = 0 := by omega
          rw [hneg, Nat.pow_zero, wholeNearest?_eq_none_iff Nat.one_pos]
          rfl
        · next hexponent =>
          have hneg : n.exponent.toNat = 0 := by omega
          rw [hneg, Nat.pow_zero, Nat.mul_one]
          exact wholeNearest?_eq_none_iff (ten_pow_pos _)

/-- **the numerals that have a whole part** -/
theorem whole?_eq_none_iff (n : Numeral) : n.whole? = none ↔ ¬n.IsFinite := by
  rw [whole?_eq, Option.map_eq_none_iff, magnitude?_eq_none_iff]

end QuestScript.Numeral
