import QuestScript.Diagnostic.Basic
import QuestScript.Text.Quoted

/-!
# What can be wrong

Every problem that a render finds, with its severity, its number and its wording.  A problem becomes
a diagnostic when it is put on the blocks it was found in.
-/

namespace QuestScript

open Text (quoted)

/-- the cause of a message -/
inductive Problem where
  /-- content was folded into a quest header -/
  | manyQuestBlocks
  | missingAttribute (key : Text)
  /-- the first unit of the document is no quest header -/
  | missingQuest
  | notANumber (key value : Text)
  | unknownAttribute (key : Text)
  /-- indented content without a choice above it -/
  | strayChild
  /-- indented content of a combat card without an event above it -/
  | strayCombatChild
  /-- a unit that no unit above it took in -/
  | unattached (depth : Nat)
  | noEnemies
  | unknownEvent (choice : Text)
  | indentedQuest
  | triggerExtra
  | malformedAttribute (line : Text)
  | malformedCombatLine (line : Text)
  | unknownSeverity (name : Text)
  /-- a block of another depth was left without a state -/
  | unsetOutsideBase
  | emptyBlockList
  | anchorRendered
deriving DecidableEq, Repr

namespace Problem

def severity : Problem → Severity
  | .strayChild | .strayCombatChild | .unattached _ | .triggerExtra => .warning
  | .unknownSeverity _ | .unsetOutsideBase | .emptyBlockList | .anchorRendered => .internal
  | _ => .error

def code : Problem → Nat
  | .manyQuestBlocks => 423
  | .missingAttribute _ => 424
  | .missingQuest => 425
  | .notANumber _ _ => 426
  | .unknownAttribute _ => 427
  | .strayChild => 428
  | .strayCombatChild => 428
  | .unattached _ => 429
  | .noEnemies => 430
  | .unknownEvent _ => 431
  | .indentedQuest => 432
  | .triggerExtra => 433
  | .malformedAttribute _ => 434
  | .malformedCombatLine _ => 434
  | .unknownSeverity _ => 506
  | .unsetOutsideBase => 507
  | .emptyBlockList => 508
  | .anchorRendered => 509

def message : Problem → Text
  | .manyQuestBlocks => "quest block group cannot contain multiple blocks"
  | .missingAttribute key => ("missing: \"" : Text) ++ key ++ ['"']
  | .missingQuest => "a quest must start with a \"#\" quest header"
  | .notANumber key value => key ++ (" should be a number, but is " : Text) ++ quoted value
  | .unknownAttribute key => ("unknown key: \"" : Text) ++ key ++ ['"']
  | .strayChild => "indented content does not follow a choice"
  | .strayCombatChild => "combat content must follow \"* on win\" or \"* on lose\""
  | .unattached depth =>
    ("content at indent " : Text) ++ Text.ofNat depth ++
      (" is not attached to any parent; check its indentation" : Text)
  | .noEnemies => "combat has no enemies"
  | .unknownEvent choice =>
    ("unknown combat event " : Text) ++ quoted choice ++
      (", expected \"on win\" or \"on lose\"" : Text)
  | .indentedQuest => "quest header must not be indented"
  | .triggerExtra => "a trigger must stand alone, extra content is ignored"
  | .malformedAttribute line => ("expected \"key: value\", found " : Text) ++ quoted line
  | .malformedCombatLine line => ("combat card does not understand " : Text) ++ quoted line
  | .unknownSeverity name => ("unknown message type " : Text) ++ quoted name
  | .unsetOutsideBase => "found unset block outside the base indent"
  | .emptyBlockList => "empty block list given to dispatch"
  | .anchorRendered => "group anchor is already rendered"

/-- the problem as a message about `blocks` -/
def on (blocks : List Nat) (p : Problem) : Diagnostic := ⟨p.severity, p.code, p.message, blocks⟩

end Problem

end QuestScript
