import QuestScript.Text.Pattern

/-!
# What fits a pattern

The ways to cut a text are tried one after the other, so a text fits just if there is a cut.

* `Pattern.manyThen_iff`            any number of characters, by induction on the text;
* `Pattern.fits_many_iff`, `Pattern.fits_literal_append_iff`  a pattern by its first pieces.
-/

namespace QuestScript.Pattern

variable {is : Char → Bool} {ps : Pattern}

theorem manyThen_iff {rest : Text → Bool} {t : Text} : manyThen is rest t = true ↔
    ∃ s u, t = s ++ u ∧ (∀ c ∈ s, is c = true) ∧ rest u = true := by
  induction t with
  | nil =>
    constructor
    · exact fun h => ⟨[], [], rfl, nofun, h⟩
    · rintro ⟨s, u, heq, _, hu⟩
      rwa [(List.append_eq_nil_iff.mp heq.symm).2] at hu
  | cons c t ih =>
    rw [manyThen, Bool.or_eq_true, Bool.and_eq_true, ih]
    constructor
    · rintro (h | ⟨hc, s, u, rfl, hs, hu⟩)
      · exact ⟨[], c :: t, rfl, nofun, h⟩
      · exact ⟨c :: s, u, rfl, List.forall_mem_cons.mpr ⟨hc, hs⟩, hu⟩
    · rintro ⟨s, u, heq, hs, hu⟩
      cases s with
      | nil => exact Or.inl (heq ▸ hu)
      | cons d s =>
        obtain ⟨rfl, rfl⟩ := List.cons.inj heq
        obtain ⟨hc, hs⟩ := List.forall_mem_cons.mp hs
        exact Or.inr ⟨hc, s, u, rfl, hs, hu⟩

theorem fits_nil_iff {t : Text} : fits [] t = true ↔ t = [] := List.isEmpty_iff

theorem fits_many_iff {t : Text} : fits (.many is :: ps) t = true ↔
    ∃ s u, t = s ++ u ∧ (∀ c ∈ s, is c = true) ∧ fits ps u = true := by
  rw [fits]
  exact manyThen_iff

theorem fits_literal_append_iff {s : Text} : ∀ {t : Text},
    fits (literal s ++ ps) t = true ↔ ∃ u, t = s ++ u ∧ fits ps u = true := by
  induction s with
  | nil => simp [literal]
  | cons c s ih =>
    intro t
    cases t with
    | nil => simp [literal, fits]
    | cons d t =>
      have hrest : fits (literal (c :: s) ++ ps) (d :: t) = (d == c && fits (literal s ++ ps) t) := rfl
      rw [hrest, Bool.and_eq_true, beq_iff_eq, ih]
      simp [and_assoc]

end QuestScript.Pattern
