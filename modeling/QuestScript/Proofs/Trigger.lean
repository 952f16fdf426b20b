import QuestScript.Line
import QuestScript.Proofs.Text.Parts
import QuestScript.Proofs.Text.Pattern
import QuestScript.Proofs.Text.Trim

/-!
# Triggers

A trigger is white space, the bold marker, a text without line feed, the bold marker and white space.
The text between the markers may hold asterisks itself.  But the white space ends where the first marker
begins, so a line is cut in one way only, and taking the markers off the trimmed line finds the same
text.

* `Line.Divides`                    a line cut along the pattern;
* `Line.isTrigger_iff`              the lines that fit the pattern are those with a cut;
* `Line.trim_eq_of_divides`, `Line.strip_eq_some_iff`  the cut, read off the trimmed line;
* `Line.triggerText?_eq_some_iff`   the text of a trigger;
* `Line.trigger_recognized`         all of it together.
-/

namespace QuestScript.Line

open Character (isBlank)
open Text (trim dropPrefix? dropSuffix?)

/-- a line cut into white space, the marker, a text without line feed, the marker and white space -/
structure Divides (line before middle after : Text) : Prop where
  line_eq : line = before ++ (boldMark ++ middle ++ boldMark) ++ after
  before : ∀ c ∈ before, isBlank c = true
  middle : '\n' ∉ middle
  after : ∀ c ∈ after, isBlank c = true

section
variable {line before middle after : Text}

theorem trim_bold (middle : Text) : trim (boldMark ++ middle ++ boldMark) =
    boldMark ++ middle ++ boldMark := by
  have hstar : isBlank '*' = false := by decide
  apply Text.trim_eq_self
  · intro c hc
    have hhead : (boldMark ++ middle ++ boldMark).head? = some '*' := rfl
    rw [hhead] at hc
    exact Option.some.inj hc ▸ hstar
  · intro c hc
    have hlast : (boldMark ++ middle ++ boldMark).getLast? = some '*' := by
      rw [List.getLast?_append]
      rfl
    rw [hlast] at hc
    exact Option.some.inj hc ▸ hstar

theorem trim_eq_of_divides (h : Divides line before middle after) :
    trim line = boldMark ++ middle ++ boldMark := by
  rw [h.line_eq, Text.trim_append_of_blank h.before h.after, trim_bold]

/-- taking the markers off -/
theorem strip_eq_some_iff : (dropPrefix? boldMark (trim line)).bind (dropSuffix? boldMark) =
    some middle ↔ trim line = boldMark ++ middle ++ boldMark := by
  simp only [Option.bind_eq_some_iff, Text.dropPrefix?_eq_some_iff, Text.dropSuffix?_eq_some_iff]
  constructor
  · rintro ⟨rest, htrim, rfl⟩
    rw [htrim, List.append_assoc]
  · intro htrim
    exact ⟨middle ++ boldMark, by rw [htrim, List.append_assoc], rfl⟩

theorem isTrigger_iff : isTrigger line = true ↔
    ∃ before middle after, Divides line before middle after := by
  unfold isTrigger triggerPattern
  simp only [Pattern.fits_many_iff, Pattern.fits_literal_append_iff, Pattern.fits_nil_iff]
  constructor
  · rintro ⟨before, _, rfl, hbefore, _, rfl, middle, _, rfl, hmiddle, _, rfl, after, _, rfl, hafter,
      rfl⟩
    refine ⟨before, middle, after, by simp, hbefore, fun hnewline => ?_, hafter⟩
    exact absurd (hmiddle _ hnewline) (by decide)
  · rintro ⟨before, middle, after, h⟩
    have hmiddle : ∀ c ∈ middle, (c != '\n') = true := fun c hc =>
      bne_iff_ne.mpr (ne_of_mem_of_not_mem hc h.middle)
    exact ⟨before, _, by rw [h.line_eq, List.append_assoc], h.before, _,
      by rw [List.append_assoc, List.append_assoc], middle, _, rfl, hmiddle, _, rfl, after, [],
      (List.append_nil after).symm, h.after, rfl⟩

theorem triggerText?_of_divides (h : Divides line before middle after) :
    triggerText? line = some (trim middle) := by
  unfold triggerText?
  rw [if_pos (isTrigger_iff.mpr ⟨before, middle, after, h⟩),
    strip_eq_some_iff.mpr (trim_eq_of_divides h), Option.map_some]

/-- no trigger is lost when its markers are taken off -/
theorem isSome_triggerText?_iff : (triggerText? line).isSome = true ↔ isTrigger line = true := by
  constructor
  · intro h
    by_contra hnot
    rw [triggerText?, if_neg hnot] at h
    cases h
  · intro h
    obtain ⟨before, middle, after, hdivides⟩ := isTrigger_iff.mp h
    rw [triggerText?_of_divides hdivides]
    rfl

theorem triggerText?_eq_some_iff {t : Text} : triggerText? line = some t ↔
    ∃ before middle after, Divides line before middle after ∧ trim middle = t := by
  constructor
  · intro h
    have htrigger : isTrigger line = true := isSome_triggerText?_iff.mp (h ▸ rfl)
    obtain ⟨before, middle, after, hdivides⟩ := isTrigger_iff.mp htrigger
    rw [triggerText?_of_divides hdivides] at h
    exact ⟨before, middle, after, hdivides, Option.some.inj h⟩
  · rintro ⟨before, middle, after, hdivides, rfl⟩
    exact triggerText?_of_divides hdivides

end

/-- **Triggers are recognized.**  A line is a trigger just if it is white space, the bold marker, any
text without line feed, the bold marker and white space.  Just then it has a text.  However the line
is cut, taking the markers off the trimmed line finds the text between them, and that text, trimmed, is
the text of the trigger.  Any text without line feed and without white space on either side is the text
of the trigger that has it between its markers, whatever asterisks are in it. -/
theorem trigger_recognized (line : Text) :
    (isTrigger line = true ↔ ∃ before middle after, Divides line before middle after) ∧
    ((triggerText? line).isSome = true ↔ isTrigger line = true) ∧
    (∀ before middle after, Divides line before middle after →
      (dropPrefix? boldMark (trim line)).bind (dropSuffix? boldMark) = some middle ∧
        triggerText? line = some (trim middle)) ∧
    ∀ t : Text, '\n' ∉ t → (∀ c ∈ t.head?, isBlank c = false) →
      (∀ c ∈ t.getLast?, isBlank c = false) → triggerText? (boldMark ++ t ++ boldMark) = some t := by
  refine ⟨isTrigger_iff, isSome_triggerText?_iff, ?_, ?_⟩
  · intro before middle after hdivides
    exact ⟨strip_eq_some_iff.mpr (trim_eq_of_divides hdivides), triggerText?_of_divides hdivides⟩
  · intro t hnewline hhead hlast
    have hdivides : Divides (boldMark ++ t ++ boldMark) [] t [] :=
      ⟨by simp, by simp, hnewline, by simp⟩
    rw [triggerText?_of_divides hdivides, Text.trim_eq_self hhead hlast]

/-- three asterisks are not two markers, five are two markers around one -/
example : isTrigger "***" = false ∧ triggerText? "*****" = some ("*" : Text) := by decide

end QuestScript.Line
