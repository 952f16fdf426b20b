import QuestScript.Text.Pattern

/-!
# Lines and what they announce

The first line of a block decides what the block is:

* a root line starts with `#` and heads the quest;
* a combat line starts with `_combat_`;
* a trigger is a whole line between bold markers, as in `**end**`;
* every other line is narrative.

Lines that start with `#` or `_`, and triggers, are header lines: nothing above them joins them.
-/

namespace QuestScript

/-- what a line announces -/
inductive LineKind where
  | root
  | combat
  | trigger
  | narrative
deriving DecidableEq, Repr

namespace Line

open Text

/-- the marker on either side of a trigger -/
def boldMark : Text := ['*', '*']

/-- the marker that opens a combat card -/
def combatMark : Text := "_combat_"

/-- white space, the marker, anything but a line feed, the marker, white space -/
def triggerPattern : Pattern :=
  .many Character.isBlank :: (Pattern.literal boldMark ++ .many (· != '\n') ::
    (Pattern.literal boldMark ++ [.many Character.isBlank]))

/-- a whole line between bold markers -/
def isTrigger (line : Text) : Bool := triggerPattern.fits line

/-- the text between the bold markers of a trigger -/
def triggerText? (line : Text) : Option Text :=
  if isTrigger line then
    ((dropPrefix? boldMark (trim line)).bind (dropSuffix? boldMark)).map trim
  else none

/-- a line that heads the quest -/
def isRoot (line : Text) : Bool := startsWith ['#'] line

/-- a line that opens a group of its own -/
def isHeader (line : Text) : Bool :=
  startsWith ['#'] line || startsWith ['_'] line || isTrigger line

/-- what a line announces: the first shape that fits, in the order root, combat, trigger -/
def kind (line : Text) : LineKind :=
  if isRoot line then .root
  else if startsWith combatMark line then .combat
  else if isTrigger line then .trigger
  else .narrative

end Line

end QuestScript
