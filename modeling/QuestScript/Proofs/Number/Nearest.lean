import QuestScript.Proofs.Number.Finite
import QuestScript.Proofs.Quest.Written

/-!
# Integers that are read as the nearest number

An integer of 64 signed bits is read through a number with a mantissa of 53 bits, so most integers from
`2 ^ 53` on are read as another one.  What is read is as near to the integer as such a number can be,
and where that number is `2 ^ 63`, which is one too large, the cut brings it nearer still.

* `Numeral.natAbs_roundHalfEven_le`   rounding gives a nearest multiple;
* `Numeral.natAbs_wholeNearest?_le`   and a nearest number with a mantissa of 53 bits;
* `Numeral.exists_nearest`            what the decimal text of an integer is read as;
* `Attributes.number_of_decimal`      the value of an attribute that is such a text.
-/

namespace QuestScript

namespace Numeral

/-! ## the nearest number -/

theorem natAbs_roundHalfEven_le (num : Nat) {den : Nat} (hden : 0 < den) (k : Nat) :
    (((roundHalfEven num den * den : Nat) : Int) - num).natAbs ≤
      (((k * den : Nat) : Int) - num).natAbs := by
  have hdiv := Nat.div_add_mod' num den
  have hmod := Nat.mod_lt num hden
  have hround := roundHalfEven_cases num den
  generalize num / den = q at *
  generalize num % den = r at *
  have hsucc : (q + 1) * den = q * den + den := Nat.succ_mul q den
  -- the multiple is not above the number, or above all that are not
  have hk : k * den ≤ q * den ∨ (q + 1) * den ≤ k * den := by
    rcases Nat.lt_or_ge q k with h | h
    · exact Or.inr (Nat.mul_le_mul_right den h)
    · exact Or.inl (Nat.mul_le_mul_right den h)
  rcases hround with ⟨hround, hle, _⟩ | ⟨hround, hle⟩
  · rw [hround]
    omega
  · rw [hround, hsucc]
    omega

/-- **what a whole number is rounded to** is a nearest number with a mantissa of 53 bits -/
theorem natAbs_wholeNearest?_le {k m : Nat} (hk : k ≠ 0) (h : wholeNearest? k 1 = some m) {b : Nat}
    (hb : IsBinary b) : ((m : Int) - k).natAbs ≤ ((b : Int) - k).natAbs := by
  rcases wholeNearest?_one hk with ⟨n, hself, hround⟩ | hround
  · have hm : roundHalfEven k (2 ^ n) * 2 ^ n = m := by
      rw [hround] at h
      dsimp only at h
      split at h
      · exact Option.some.inj h
      · cases h
    have hnearest := natAbs_roundHalfEven_le k (Nat.two_pow_pos n)
    rw [hm] at hnearest
    by_cases hle : 2 ^ (n + 52) ≤ b
    · obtain ⟨q, rfl⟩ := hb.two_pow_dvd hle
      rw [Nat.mul_comm (2 ^ n) q]
      exact hnearest q
    · -- a power of two lies between the two numbers
      have hpower := hnearest (2 ^ 52)
      rw [← Nat.pow_add, Nat.add_comm 52 n] at hpower
      generalize 2 ^ (n + 52) = power at *
      omega
  · rw [hround] at h
    obtain rfl := Option.some.inj h
    simp

theorem exists_wholeNearest? {k : Nat} (hle : k ≤ bound) : ∃ m, wholeNearest? k 1 = some m := by
  rw [← Option.isSome_iff_exists, ← Option.ne_none_iff_isSome, Ne,
    wholeNearest?_eq_none_iff Nat.one_pos, Nat.mul_one, Nat.not_le]
  exact hle.trans_lt (two_pow_lt_overflow (i := 63) (by decide))

/-! ## decimal texts -/

section
variable {i : Int} (hmin : -bound ≤ i) (hmax : i < bound)
include hmin hmax

theorem exists_magnitude? : ∃ m, (⟨decide (i < 0), i.natAbs, 0⟩ : Numeral).magnitude? = some m ∧
    ∀ b, IsBinary b → ((m : Int) - i.natAbs).natAbs ≤ ((b : Int) - i.natAbs).natAbs := by
  by_cases hzero : i.natAbs = 0
  · refine ⟨0, ?_, fun b _ => ?_⟩
    · rw [hzero]
      rfl
    · simp [hzero]
  · have hle : i.natAbs ≤ bound := by omega
    obtain ⟨m, hm⟩ := exists_wholeNearest? hle
    refine ⟨m, ?_, fun b hb => natAbs_wholeNearest?_le hzero hm hb⟩
    rw [magnitude?_of_whole rfl hzero hle, hm]

/-- **what an integer is read as** is nearest to it, and has a mantissa of 53 bits or was cut -/
theorem exists_nearest : ∃ j, (ofText? (Text.ofInt i)).bind whole? = some j ∧
    (IsBinary j.natAbs ∨ j = bound - 1) ∧
    ∀ b : Int, IsBinary b.natAbs → (j - i).natAbs ≤ (b - i).natAbs := by
  obtain ⟨m, hm, hnearest⟩ := exists_magnitude? hmin hmax
  have hbinary := isBinary_of_magnitude? hm
  generalize hs : (if decide (i < 0) then -(m : Int) else m) = s
  have habs : s.natAbs = m := by split at hs <;> omega
  refine ⟨clamp s, ?_, ?_, ?_⟩
  · rw [ofText?_ofInt, Option.bind_some, whole?_eq, hm, Option.map_some, ← hs]
  · have hbound : IsBinary bound := isBinary_two_pow 63
    rcases lt_trichotomy s (-bound) with hlow | hlow | hlow
    · have hclamp : clamp s = -bound := by unfold clamp; omega
      exact Or.inl (by simpa [hclamp] using hbound)
    · exact Or.inl (by simpa [hlow, clamp, bound] using hbound)
    · by_cases hhigh : s < bound
      · rw [clamp_of_mem hlow.le hhigh]
        exact Or.inl (habs ▸ hbinary)
      · exact Or.inr (by unfold clamp; omega)
  · intro b hb
    -- the cut does not lead away from an integer that is not cut itself
    have hcut : (clamp s - i).natAbs ≤ (s - i).natAbs := by unfold clamp; omega
    have hsize := hnearest b.natAbs hb
    have hsign : (s - i).natAbs = ((m : Int) - i.natAbs).natAbs := by
      by_cases hneg : i < 0 <;> simp [hneg] at hs <;> omega
    omega

end

end Numeral

namespace Attributes

open Character (isBlank)
open Numeral (IsBinary bound)

/-- **The value of an attribute that is an integer.**  Where the value is the decimal text of an integer
of 64 signed bits, with any white space around it, a number is read and nothing is reported.  No number
with a mantissa of 53 bits is nearer to the integer than the number that is read.  It is the integer
itself just if that has such a mantissa, as all integers up to `2 ^ 53` in size have, or is the largest
of all. -/
theorem number_of_decimal {attrs : Attributes} {key before after : Text} {i : Int}
    (hvalue : attrs.get? key = some (before ++ Text.ofInt i ++ after))
    (hbefore : ∀ c ∈ before, isBlank c = true) (hafter : ∀ c ∈ after, isBlank c = true)
    (hmin : -bound ≤ i) (hmax : i < bound) (required : Bool) :
    ∃ j, attrs.number key required = (some j, []) ∧
      (∀ b : Int, IsBinary b.natAbs → (j - i).natAbs ≤ (b - i).natAbs) ∧
      (j = i ↔ IsBinary i.natAbs ∨ i = bound - 1) ∧ (i.natAbs ≤ 2 ^ 53 → j = i) := by
  obtain ⟨j, hread, hcases, hnearest⟩ := Numeral.exists_nearest hmin hmax
  have hexact (h : IsBinary i.natAbs) : j = i := by
    have := hnearest i h
    omega
  refine ⟨j, ?_, hnearest, ⟨?_, ?_⟩, fun h => hexact (IsBinary.of_le h)⟩
  · have hwhole : wholeNumber? (before ++ Text.ofInt i ++ after) = some j := by
      unfold wholeNumber?
      rw [Text.trim_append_of_blank hbefore hafter, trim_ofInt, hread]
    have hmissing : attrs.missing key required = [] := by
      have hne : Text.ofInt i ≠ [] := by
        intro hnil
        rw [hnil] at hread
        cases hread
      unfold missing
      rw [hvalue]
      simp [hne]
    unfold number
    rw [hvalue, hmissing]
    dsimp only
    rw [hwhole]
  · rintro rfl
    exact hcases
  · rintro (h | rfl)
    · exact hexact h
    · exact Option.some.inj (hread.symm.trans Numeral.whole?_bound)

/-- the least integer, between an ideographic space and a line separator -/
theorem number_of_least_decimal :
    let attrs : Attributes := [("n", "\u3000-9223372036854775808\u2028")]
    attrs.get? "n" = some (['\u3000'] ++ Text.ofInt (-9223372036854775808) ++ ['\u2028']) ∧
      attrs.number "n" true = (some (-9223372036854775808), []) := by
  intro attrs
  have hvalue : attrs.get? "n" =
      some (['\u3000'] ++ Text.ofInt (-9223372036854775808) ++ ['\u2028']) := by decide
  have hbefore : ∀ c ∈ ['\u3000'], isBlank c = true := List.forall_mem_singleton.mpr (by decide)
  have hafter : ∀ c ∈ ['\u2028'], isBlank c = true := List.forall_mem_singleton.mpr (by decide)
  obtain ⟨j, hnumber, _, hexact, _⟩ :=
    number_of_decimal hvalue hbefore hafter (by simp [bound]) (by simp [bound]) true
  obtain rfl := hexact.mpr (Or.inl (Numeral.isBinary_two_pow 63))
  exact ⟨hvalue, hnumber⟩

/-- the least integer that is read as another one -/
theorem number_of_odd_decimal :
    let attrs : Attributes := [("n", Text.ofInt 9007199254740993)]
    attrs.number "n" true = (some 9007199254740992, []) := by
  decide +kernel

end Attributes

end QuestScript
