import QuestScript.Text.Basic

/-!
# Lines of a text

A line ends after a line feed.  `withEnds` cuts a text into its lines and loses nothing;
`lines` leaves out the line feeds, and with each of them one carriage return before it.
-/

namespace QuestScript.Text

/-- the lines of a text, each with the line feed that ends it -/
def withEnds : Text → List Text
  | [] => []
  | c :: t =>
    if c = '\n' then ['\n'] :: withEnds t
    else
      match withEnds t with
      | [] => [[c]]
      | l :: ls => (c :: l) :: ls

/-- a line without its line feed and without the one carriage return before that -/
def chomp (line : Text) : Text :=
  match dropSuffix? ['\n'] line with
  | none => line
  | some l => (dropSuffix? ['\r'] l).getD l

/-- the lines of a text, without their ends; nothing follows the last line feed -/
def lines (t : Text) : List Text := (withEnds t).map chomp

/-- each line with a line feed after it -/
def unlines (ls : List Text) : Text := ls.flatMap (· ++ ['\n'])

theorem flatten_withEnds (t : Text) : (withEnds t).flatten = t := by
  induction t with
  | nil => rfl
  | cons c t ih =>
    rw [withEnds]
    split
    · next h => rw [List.flatten_cons, ih, h]; rfl
    · split
      · next h => rw [h] at ih; simp_all
      · next h => rw [h] at ih; simp_all

end QuestScript.Text
