import QuestScript.Text.Basic
import Mathlib.Data.List.DropRight

/-!
# Trimming

What is left of a text when the white space on either side is cut off.

* `Text.trim_prefix`, `Text.trim_eq_nil_iff`  where the rest stands, and when nothing is left;
* `Text.trim_eq_self`                     the texts that stay as they are;
* `Text.trim_trim`                        what is left stays as it is;
* `Text.trim_append_of_blank`             more white space on either side is cut off too.
-/

namespace QuestScript.Text

open Character (isBlank)

theorem trim_prefix (t : Text) : trim t <+: trimStart t := List.rdropWhile_prefix _ _

/-- the text without the white space it starts with does not start with white space -/
theorem not_blank_of_head? {t : Text} : ∀ c ∈ (trimStart t).head?, isBlank c = false := by
  intro c hc
  have := List.head?_dropWhile_not isBlank t
  rwa [show (t.dropWhile isBlank).head? = some c from hc] at this

theorem trim_eq_nil_iff {t : Text} : trim t = [] ↔ ∀ c ∈ t, isBlank c = true := by
  constructor
  · intro h
    have hall : ∀ c ∈ trimStart t, isBlank c = true := List.rdropWhile_eq_nil_iff.mp h
    cases hstart : trimStart t with
    | nil => exact List.dropWhile_eq_nil_iff.mp hstart
    | cons c rest =>
      have hc : isBlank c = false := not_blank_of_head? c (by rw [hstart]; rfl)
      rw [hall c (hstart ▸ List.mem_cons_self)] at hc
      cases hc
  · intro h
    have hstart : trimStart t = [] := List.dropWhile_eq_nil_iff.mpr h
    rw [trim, hstart]
    rfl

theorem trimStart_eq_self_iff {t : Text} : trimStart t = t ↔ ∀ c ∈ t.head?, isBlank c = false := by
  unfold trimStart
  cases t with
  | nil => simp
  | cons c t => simp [List.dropWhile_eq_self_iff]

theorem trimEnd_eq_self_iff {t : Text} : trimEnd t = t ↔ ∀ c ∈ t.getLast?, isBlank c = false := by
  show List.rdropWhile isBlank t = t ↔ _
  rw [List.rdropWhile_eq_self_iff]
  constructor
  · intro h c hc
    obtain ⟨hne, rfl⟩ := List.mem_getLast?_eq_getLast hc
    exact Bool.eq_false_iff.mpr (h hne)
  · intro h hne
    exact Bool.eq_false_iff.mp (h _ (List.getLast?_eq_some_getLast hne))

/-- **a text stays as it is** if it neither starts nor ends with white space -/
theorem trim_eq_self {t : Text} (hhead : ∀ c ∈ t.head?, isBlank c = false)
    (hlast : ∀ c ∈ t.getLast?, isBlank c = false) : trim t = t := by
  unfold trim
  rw [trimStart_eq_self_iff.mpr hhead, trimEnd_eq_self_iff.mpr hlast]

theorem trim_eq_self_iff {t : Text} : trim t = t ↔
    (∀ c ∈ t.head?, isBlank c = false) ∧ ∀ c ∈ t.getLast?, isBlank c = false := by
  constructor
  · intro h
    have hle : t.length ≤ (trimStart t).length := by
      have hpre := trim_prefix t
      rw [h] at hpre
      exact hpre.length_le
    have hstart : trimStart t = t :=
      (List.dropWhile_suffix isBlank).eq_of_length (hle.antisymm' (List.dropWhile_suffix _).length_le)
    refine ⟨trimStart_eq_self_iff.mp hstart, trimEnd_eq_self_iff.mp ?_⟩
    rwa [trim, hstart] at h
  · exact fun h => trim_eq_self h.1 h.2

theorem trim_of_not_blank {t : Text} (h : ∀ c ∈ t, isBlank c = false) : trim t = t :=
  trim_eq_self (fun c hc => h c (List.mem_of_mem_head? hc))
    fun c hc => h c (List.mem_of_mem_getLast? hc)

/-- **what is left** after trimming stays as it is -/
theorem trim_trim (t : Text) : trim (trim t) = trim t := by
  have hend : trimEnd (trim t) = trim t := List.rdropWhile_idempotent _ _
  have hstart : trimStart (trim t) = trim t := by
    refine trimStart_eq_self_iff.mpr fun c hc => ?_
    -- the rest of the text starts where the text without its first white space does
    obtain ⟨rest, hrest⟩ := trim_prefix t
    exact not_blank_of_head? c (hrest ▸ List.mem_head?_append_of_mem_head? hc)
  calc trim (trim t) = trimEnd (trimStart (trim t)) := rfl
    _ = trim t := by rw [hstart, hend]

theorem mem_of_mem_trim {t : Text} {c : Char} (h : c ∈ trim t) : c ∈ t := by
  have hpre := trim_prefix t
  exact (List.dropWhile_suffix isBlank).subset (hpre.subset h)

theorem trim_cons_of_blank {c : Char} (hc : isBlank c = true) (t : Text) :
    trim (c :: t) = trim t := by
  unfold trim trimStart
  rw [List.dropWhile_cons_of_pos hc]

/-! ## what is cut off -/

theorem dropWhileEnd_append_of_pos {p : Char → Bool} {after : Text} (h : ∀ c ∈ after, p c = true)
    (t : Text) : dropWhileEnd p (t ++ after) = dropWhileEnd p t := by
  unfold dropWhileEnd
  rw [List.reverse_append, List.dropWhile_append_of_pos fun c hc => h c (List.mem_reverse.mp hc)]

/-- **more white space** on either side is cut off too -/
theorem trim_append_of_blank {before after : Text} (hbefore : ∀ c ∈ before, isBlank c = true)
    (hafter : ∀ c ∈ after, isBlank c = true) (t : Text) : trim (before ++ t ++ after) = trim t := by
  unfold trim trimStart
  rw [List.append_assoc, List.dropWhile_append_of_pos hbefore, List.dropWhile_append]
  split
  · next hnil =>
    have hnothing : after.dropWhile isBlank = [] := List.dropWhile_eq_nil_iff.mpr hafter
    rw [hnothing, List.isEmpty_iff.mp hnil]
  · exact dropWhileEnd_append_of_pos hafter _

end QuestScript.Text
