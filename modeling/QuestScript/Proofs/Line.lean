import QuestScript.Proofs.Trigger

/-!
# What a line announces

The kinds of a line are tried in the order root, combat, trigger.  The order does not matter: a root
line starts with `#`, a combat line with `_`, and a trigger, after its white space, with `*`.

* `Line.head?_trimStart_of_isTrigger`  what a trigger starts with;
* `Line.kind_cases`                     at most one test holds of a line, and the kind says which;
* `Line.kind_eq_root_iff`, `Line.kind_eq_combat_iff`, `Line.kind_eq_trigger_iff`,
  `Line.kind_eq_narrative_iff`         each kind by its own test;
* `Line.not_blank_of_isHeader`         a header line is not blank.
-/

namespace QuestScript

open Character (isBlank)

namespace Line

open Text (trim trimStart startsWith)

/-! ## the first character -/

section
variable {line : Text}

theorem head?_of_isRoot (h : isRoot line = true) : line.head? = some '#' :=
  Text.head?_of_prefix rfl (Text.startsWith_iff.mp h)

theorem head?_of_combat (h : startsWith combatMark line = true) : line.head? = some '_' :=
  Text.head?_of_prefix rfl (Text.startsWith_iff.mp h)

theorem head?_trimStart_of_isTrigger (h : isTrigger line = true) :
    (trimStart line).head? = some '*' := by
  obtain ⟨_, middle, _, hdivides⟩ := isTrigger_iff.mp h
  have hmark : boldMark <+: trim line := by
    rw [trim_eq_of_divides hdivides, List.append_assoc]
    exact List.prefix_append _ _
  exact Text.head?_of_prefix rfl (hmark.trans (Text.trim_prefix line))

/-- a line that starts with anything but white space or a star is no trigger -/
theorem isTrigger_eq_false {c : Char} (hc : line.head? = some c) (hblank : isBlank c = false)
    (hstar : c ≠ '*') : isTrigger line = false := by
  obtain ⟨rest, rfl⟩ := List.head?_eq_some_iff.mp hc
  refine Bool.eq_false_iff.mpr fun h => ?_
  have hhead := head?_trimStart_of_isTrigger h
  rw [trimStart, List.dropWhile_cons_of_neg (by rw [hblank]; exact Bool.false_ne_true)] at hhead
  exact hstar (Option.some.inj hhead)

theorem not_isTrigger_of_isRoot (h : isRoot line = true) : isTrigger line = false :=
  isTrigger_eq_false (head?_of_isRoot h) (by decide) (by decide)

theorem not_isTrigger_of_combat (h : startsWith combatMark line = true) :
    isTrigger line = false :=
  isTrigger_eq_false (head?_of_combat h) (by decide) (by decide)

theorem not_isRoot_of_combat (h : startsWith combatMark line = true) : isRoot line = false := by
  refine Bool.eq_false_iff.mpr fun hroot => ?_
  have hhash := head?_of_isRoot hroot
  rw [head?_of_combat h] at hhash
  exact absurd (Option.some.inj hhash) (by decide)

/-! ## the kinds -/

variable (line)

/-- **at most one test holds of a line**, and the kind says which -/
theorem kind_cases :
    (kind line = .root ∧ isRoot line = true ∧ startsWith combatMark line = false ∧
      isTrigger line = false) ∨
    (kind line = .combat ∧ isRoot line = false ∧ startsWith combatMark line = true ∧
      isTrigger line = false) ∨
    (kind line = .trigger ∧ isRoot line = false ∧ startsWith combatMark line = false ∧
      isTrigger line = true) ∨
    (kind line = .narrative ∧ isRoot line = false ∧ startsWith combatMark line = false ∧
      isTrigger line = false) := by
  unfold kind
  cases hroot : isRoot line with
  | true =>
    have hcombat : startsWith combatMark line = false := by
      refine Bool.eq_false_iff.mpr fun hcombat => ?_
      rw [not_isRoot_of_combat hcombat] at hroot
      cases hroot
    exact Or.inl ⟨rfl, rfl, hcombat, not_isTrigger_of_isRoot hroot⟩
  | false =>
    cases hcombat : startsWith combatMark line with
    | true => exact Or.inr (Or.inl ⟨rfl, rfl, rfl, not_isTrigger_of_combat hcombat⟩)
    | false => cases isTrigger line <;> simp

theorem kind_eq_root_iff : kind line = .root ↔ isRoot line = true := by
  rcases kind_cases line with h | h | h | h <;> simp [h]

theorem kind_eq_combat_iff : kind line = .combat ↔ startsWith combatMark line = true := by
  rcases kind_cases line with h | h | h | h <;> simp [h]

theorem kind_eq_trigger_iff : kind line = .trigger ↔ isTrigger line = true := by
  rcases kind_cases line with h | h | h | h <;> simp [h]

theorem kind_eq_narrative_iff : kind line = .narrative ↔
    isRoot line = false ∧ startsWith combatMark line = false ∧ isTrigger line = false := by
  rcases kind_cases line with h | h | h | h <;> simp [h]

variable {line}

/-- a line of any kind but narrative is a header line -/
theorem isHeader_of_kind (h : kind line ≠ .narrative) : isHeader line = true := by
  have hmark : startsWith combatMark line = true → startsWith ['_'] line = true := fun hcombat =>
    Text.startsWith_iff.mpr
      (List.IsPrefix.trans ⟨"combat_".toList, rfl⟩ (Text.startsWith_iff.mp hcombat))
  have hroot : startsWith ['#'] line = isRoot line := rfl
  unfold isHeader
  rcases kind_cases line with hk | hk | hk | hk
  · simp [hroot, hk]
  · simp [hmark hk.2.2.1]
  · simp [hk]
  · exact absurd hk.1 h

theorem not_blank_of_isHeader (h : isHeader (trim line) = true) : line.all isBlank = false := by
  refine Bool.eq_false_iff.mpr fun hblank => ?_
  rw [Text.trim_eq_nil_iff.mpr (List.all_eq_true.mp hblank)] at h
  exact absurd h (by decide)

end

end Line

end QuestScript
