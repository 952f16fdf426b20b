import QuestScript.Proofs.Number.Spelling
import Mathlib.Algebra.Order.Ring.Nat
import Mathlib.Tactic.Ring

/-!
# Whole numbers that are read back

The number nearest to a fraction has a mantissa of 53 bits, and so has its whole part.  A whole
number with such a mantissa is the number nearest to itself.  Hence the whole part of a numeral,
written in decimal, is a numeral with the same whole part.

* `Numeral.IsBinary`                whole numbers with a mantissa of at most 53 bits;
* `Numeral.isBinary_of_wholeNearest?`  what rounding gives is one of them;
* `Numeral.wholeNearest?_of_isBinary`  each of them is rounded to itself;
* `Numeral.ofText?_ofInt`           reading the decimal text of an integer;
* `Numeral.whole?_of_isBinary`      an integer of 64 signed bits with such a mantissa is read exactly;
* `Numeral.whole?_written`          a whole part that was read is read again.
-/

namespace QuestScript.Numeral

/-! ## rounding -/

theorem roundHalfEven_le {num den k : Nat} (hden : 0 < den) (h : num < den * k) :
    roundHalfEven num den ≤ k := by
  have hq : num / den < k := (Nat.div_lt_iff_lt_mul hden).mpr (by rwa [Nat.mul_comm])
  unfold roundHalfEven
  dsimp only
  split
  · exact hq
  · exact hq.le

theorem roundHalfEven_mul (q : Nat) {den : Nat} (hden : 0 < den) :
    roundHalfEven (q * den) den = q := by
  unfold roundHalfEven
  rw [Nat.mul_mod_left, Nat.mul_div_cancel q hden]
  simp [hden.ne]

/-! ## the exponent -/

/-- a bound by a power of two is one by every larger power -/
theorem lt_mul_pow_of_le {num den i j i' j' : Nat} (h : num * 2 ^ j < den * 2 ^ i)
    (hle : i + j' ≤ i' + j) : num * 2 ^ j' < den * 2 ^ i' := by
  have hden : den * 2 ^ (i + j') ≤ den * 2 ^ (i' + j) :=
    Nat.mul_le_mul_left den (Nat.pow_le_pow_right (by decide) hle)
  refine Nat.lt_of_mul_lt_mul_right (a := 2 ^ j) ?_
  calc num * 2 ^ j' * 2 ^ j = num * 2 ^ j * 2 ^ j' := by ring
    _ < den * 2 ^ i * 2 ^ j' := Nat.mul_lt_mul_of_pos_right h (Nat.two_pow_pos j')
    _ = den * 2 ^ (i + j') := by ring
    _ ≤ den * 2 ^ (i' + j) := hden
    _ = den * 2 ^ i' * 2 ^ j := by ring

theorem mul_pow_log2_lt (num : Nat) {den : Nat} (hden : den ≠ 0) :
    num * 2 ^ den.log2 < den * 2 ^ (num.log2 + 1) :=
  calc num * 2 ^ den.log2 ≤ num * den := Nat.mul_le_mul_left num (Nat.log2_self_le hden)
    _ < 2 ^ (num.log2 + 1) * den :=
      Nat.mul_lt_mul_of_pos_right Nat.lt_log2_self (Nat.pos_of_ne_zero hden)
    _ = den * 2 ^ (num.log2 + 1) := Nat.mul_comm _ _

/-- **at the exponent of a fraction** its mantissa has at most 53 bits -/
theorem lt_of_binaryExponent (num : Nat) {den i j : Nat} (hden : den ≠ 0)
    (h : binaryExponent num den = (i : Int) - j) : num * 2 ^ j < den * 2 ^ (i + 53) := by
  unfold binaryExponent at h
  dsimp only at h
  generalize hb : (num.log2 : Int) - den.log2 = b at h
  have hlog := mul_pow_log2_lt num hden
  by_cases hsign : 0 ≤ b
  · rw [if_pos hsign] at h
    split at h
    · exact lt_mul_pow_of_le hlog (by omega)
    · next hreaches =>
      have hlt : num * 2 ^ 0 < den * 2 ^ b.toNat := by simpa using hreaches
      exact lt_mul_pow_of_le hlt (by omega)
  · rw [if_neg hsign] at h
    split at h
    · exact lt_mul_pow_of_le hlog (by omega)
    · next hreaches =>
      have hlt : num * 2 ^ (-b).toNat < den * 2 ^ 0 := by simpa using hreaches
      exact lt_mul_pow_of_le hlt (by omega)

theorem binaryExponent_one {k : Nat} (hk : k ≠ 0) : binaryExponent k 1 = k.log2 - 52 := by
  have hone : Nat.log2 1 = 0 := by decide
  have hself : Nat.pow 2 k.log2 ≤ k := Nat.log2_self_le hk
  unfold binaryExponent
  simp only [hone, Int.ofNat_zero, Int.sub_zero, Int.toNat_natCast, Nat.one_mul, hself,
    Int.natCast_nonneg, if_true, decide_true]
  omega

/-! ## numbers with a mantissa of 53 bits -/

/-- a whole number with a mantissa of at most 53 bits; the mantissa may be rounded up to the next
power of two -/
def IsBinary (m : Nat) : Prop := ∃ c e, c ≤ 2 ^ 53 ∧ m = c * 2 ^ e

theorem IsBinary.of_le {m : Nat} (h : m ≤ 2 ^ 53) : IsBinary m := ⟨m, 0, h, (Nat.mul_one m).symm⟩

theorem isBinary_two_pow (e : Nat) : IsBinary (2 ^ e) := ⟨1, e, by decide, (Nat.one_mul _).symm⟩

/-- all bits behind the first 53 are zero -/
theorem IsBinary.two_pow_dvd {k e : Nat} (h : IsBinary k) (hk : 2 ^ (e + 52) ≤ k) : 2 ^ e ∣ k := by
  obtain ⟨c, f, hc, rfl⟩ := h
  rcases Nat.lt_or_ge f e with hf | hf
  · -- the mantissa is a power of two itself
    have hle : 2 ^ 53 * 2 ^ f ≤ c * 2 ^ f :=
      calc 2 ^ 53 * 2 ^ f = 2 ^ (f + 53) := by ring
        _ ≤ 2 ^ (e + 52) := Nat.pow_le_pow_right (by decide) (by omega)
        _ ≤ c * 2 ^ f := hk
    obtain rfl : c = 2 ^ 53 :=
      Nat.le_antisymm hc (Nat.le_of_mul_le_mul_right hle (Nat.two_pow_pos f))
    rw [← Nat.pow_add] at hk ⊢
    have := (Nat.pow_le_pow_iff_right (by decide)).mp hk
    exact Nat.pow_dvd_pow 2 (by omega)
  · exact Nat.dvd_mul_left_of_dvd (Nat.pow_dvd_pow 2 hf) c

/-- **what rounding gives** has a mantissa of 53 bits -/
theorem isBinary_of_wholeNearest? {num den m : Nat} (hden : den ≠ 0)
    (h : wholeNearest? num den = some m) : IsBinary m := by
  have hpos := Nat.pos_of_ne_zero hden
  unfold wholeNearest? at h
  dsimp only at h
  split at h
  · next he =>
    split at h
    · have hlt := lt_of_binaryExponent num (i := (binaryExponent num den).toNat) (j := 0)
        hden (by omega)
      have hround : roundHalfEven num (den * 2 ^ (binaryExponent num den).toNat) ≤ 2 ^ 53 := by
        refine roundHalfEven_le (Nat.mul_pos hpos (Nat.two_pow_pos _)) ?_
        rwa [Nat.pow_zero, Nat.mul_one, Nat.pow_add, ← Nat.mul_assoc] at hlt
      exact ⟨_, _, hround, (Option.some.inj h).symm⟩
    · cases h
  · next he =>
    have hlt := lt_of_binaryExponent num (i := 0) (j := (-binaryExponent num den).toNat)
      hden (by omega)
    rw [← Option.some.inj h]
    refine IsBinary.of_le (le_trans (Nat.div_le_self _ _) (roundHalfEven_le hpos ?_))
    rwa [Nat.zero_add] at hlt

/-- a whole number with more than 53 bits is rounded at one of its bits, any other not at all -/
theorem wholeNearest?_one {k : Nat} (hk : k ≠ 0) :
    (∃ n, 2 ^ (n + 52) ≤ k ∧ wholeNearest? k 1 =
      let m := roundHalfEven k (2 ^ n) * 2 ^ n
      if m < Nat.pow 2 1024 then some m else none) ∨ wholeNearest? k 1 = some k := by
  unfold wholeNearest?
  rw [binaryExponent_one hk]
  dsimp only
  split
  · next he =>
    refine Or.inl ⟨((k.log2 : Int) - 52).toNat, ?_, ?_⟩
    · have := Nat.log2_self_le hk
      rwa [show k.log2 = ((k.log2 : Int) - 52).toNat + 52 by omega] at this
    · rw [Nat.one_mul]
      rfl
  · generalize (-((k.log2 : Int) - 52)).toNat = n
    refine Or.inr ?_
    show some (roundHalfEven (k * 2 ^ n) 1 / 2 ^ n) = some k
    have hround := roundHalfEven_mul (k * 2 ^ n) Nat.one_pos
    rw [Nat.mul_one] at hround
    rw [hround, Nat.mul_div_cancel k (Nat.two_pow_pos n)]

/-- **a number with a mantissa of 53 bits** is rounded to itself -/
theorem wholeNearest?_of_isBinary {k : Nat} (hk : k ≠ 0) (h : IsBinary k) (hlt : k < Nat.pow 2 1024) :
    wholeNearest? k 1 = some k := by
  rcases wholeNearest?_one hk with ⟨n, hself, hround⟩ | hround
  · obtain ⟨q, rfl⟩ := h.two_pow_dvd hself
    have hexact : roundHalfEven (2 ^ n * q) (2 ^ n) * 2 ^ n = 2 ^ n * q := by
      rw [Nat.mul_comm (2 ^ n) q, roundHalfEven_mul q (Nat.two_pow_pos n)]
    rw [hround, hexact]
    exact if_pos hlt
  · exact hround

/-! ## decimal texts -/

theorem isDigit_of_mem_ofNat {n : Nat} {c : Char} (hc : c ∈ Text.ofNat n) : c.isDigit = true :=
  Nat.isDigit_of_mem_toDigits (by decide) (by decide) hc

theorem spells_ofNat {sign : Text} {negative : Bool} (hsign : IsSign sign negative) (n : Nat) :
    Spells (sign ++ Text.ofNat n) ⟨negative, n, 0⟩ := by
  have h := Spells.whole hsign (Nat.toDigits_ne_nil (n := n) (b := 10))
    (fun c hc => isDigit_of_mem_ofNat hc) .none
  rwa [List.append_nil, Nat.ofDigitChars_ten_toDigits] at h

theorem spells_ofInt (i : Int) : Spells (Text.ofInt i) ⟨decide (i < 0), i.natAbs, 0⟩ := by
  cases i with
  | ofNat n => exact spells_ofNat .none n
  | negSucc n =>
    rw [decide_eq_true (Int.negSucc_lt_zero n)]
    exact spells_ofNat .minus (n + 1)

/-- **the decimal text of an integer** is read as its sign and its size -/
theorem ofText?_ofInt (i : Int) : ofText? (Text.ofInt i) = some ⟨decide (i < 0), i.natAbs, 0⟩ :=
  ofText?_of_spells (spells_ofInt i)

/-! ## integers that are read exactly -/

theorem bound_lt : bound < 10 ^ 20 := by decide

theorem bound_lt_pow : bound < Nat.pow 2 1024 := by decide +kernel

theorem magnitude?_of_whole {n : Numeral} (hexponent : n.exponent = 0) (hdigits : n.digits ≠ 0)
    (hle : n.digits ≤ bound) : n.magnitude? = wholeNearest? n.digits 1 := by
  have hlength : (Text.ofNat n.digits).length ≤ 20 :=
    (Nat.length_toDigits_le_iff (by decide) (by decide)).mpr (lt_of_le_of_lt hle bound_lt)
  unfold magnitude?
  rw [hexponent, if_neg (by simpa using hdigits)]
  dsimp only
  rw [if_neg (by omega), if_neg (by omega), if_pos (le_refl 0)]
  exact congrArg (wholeNearest? · 1) (Nat.mul_one n.digits)

theorem isBinary_of_magnitude? {n : Numeral} {m : Nat} (h : n.magnitude? = some m) :
    IsBinary m := by
  unfold magnitude? at h
  dsimp only at h
  split at h
  · exact Option.some.inj h ▸ IsBinary.of_le (Nat.zero_le _)
  · split at h
    · cases h
    · split at h
      · exact Option.some.inj h ▸ IsBinary.of_le (Nat.zero_le _)
      · split at h
        · exact isBinary_of_wholeNearest? Nat.one_ne_zero h
        · exact isBinary_of_wholeNearest? (Nat.pow_pos (by decide)).ne' h

theorem clamp_of_mem {i : Int} (hmin : -bound ≤ i) (hmax : i < bound) : clamp i = i := by
  unfold clamp
  omega

theorem whole?_eq (n : Numeral) :
    n.whole? = n.magnitude?.map fun m : Nat => clamp (if n.negative then -(m : Int) else m) := by
  unfold whole?
  cases n.magnitude? <;> rfl

/-- **an integer of 64 signed bits** whose size has a mantissa of 53 bits is read exactly -/
theorem whole?_of_isBinary {i : Int} (h : IsBinary i.natAbs) (hmin : -bound ≤ i)
    (hmax : i < bound) : (ofText? (Text.ofInt i)).bind whole? = some i := by
  have hmagnitude : (⟨decide (i < 0), i.natAbs, 0⟩ : Numeral).magnitude? = some i.natAbs := by
    by_cases hzero : i.natAbs = 0
    · rw [hzero]
      rfl
    · have hle : i.natAbs ≤ bound := by omega
      rw [magnitude?_of_whole rfl hzero hle]
      exact wholeNearest?_of_isBinary hzero h (lt_of_le_of_lt hle bound_lt_pow)
  rw [ofText?_ofInt, Option.bind_some, whole?_eq, hmagnitude, Option.map_some]
  refine congrArg some ((congrArg clamp ?_).trans (clamp_of_mem hmin hmax))
  dsimp only
  split
  · next hneg =>
    have := of_decide_eq_true hneg
    omega
  · next hneg =>
    have := mt decide_eq_true hneg
    omega

/-- the largest integer has more bits, but what it is rounded to is cut to it again -/
theorem whole?_bound : (ofText? (Text.ofInt (bound - 1))).bind whole? = some (bound - 1 : Int) := by
  decide +kernel

/-- **a whole part that was read** is read again from its decimal text -/
theorem whole?_written {n : Numeral} {i : Int} (h : n.whole? = some i) :
    (ofText? (Text.ofInt i)).bind whole? = some i := by
  rw [whole?_eq] at h
  obtain ⟨m, hm, rfl⟩ := Option.map_eq_some_iff.mp h
  have hbinary := isBinary_of_magnitude? hm
  generalize hs : (if n.negative then -(m : Int) else m) = s
  have habs : s.natAbs = m := by split at hs <;> omega
  have hbound : IsBinary bound := isBinary_two_pow 63
  have hpos : 0 < bound := by decide
  -- the number is kept, or cut at one of the ends
  rcases lt_trichotomy s (-bound) with hlow | hlow | hlow
  · have hclamp : clamp s = -bound := by unfold clamp; omega
    rw [hclamp]
    exact whole?_of_isBinary (by simpa using hbound) le_rfl (by omega)
  · rw [clamp_of_mem hlow.ge (by omega)]
    exact whole?_of_isBinary (habs ▸ hbinary) hlow.ge (by omega)
  · by_cases hhigh : s < bound
    · rw [clamp_of_mem hlow.le hhigh]
      exact whole?_of_isBinary (habs ▸ hbinary) hlow.le hhigh
    · have hclamp : clamp s = bound - 1 := by unfold clamp; omega
      rw [hclamp]
      exact whole?_bound

end QuestScript.Numeral
