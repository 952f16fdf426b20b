import QuestScript.Quest.Header

/-!
# Cards

A quest is a sequence of cards: a roleplay card tells a part of the story and offers choices, a
combat card names enemies and what follows a fight, a trigger steers the game.  The content of a
choice or of an event is made of values of type `V`, in which deeper cards are already written.

`CardFormat V` is a way to write cards as values.
-/

namespace QuestScript

/-- one piece of a roleplay card -/
inductive BodyItem (V : Type) where
  | paragraph (text : Text)
  | choice (text : Text) (children : List V)
  /-- a card that follows no choice -/
  | child (value : V)
deriving DecidableEq, Repr

/-- a part of the story -/
structure Roleplay (V : Type) where
  title : Option Text
  body : List (BodyItem V)
deriving DecidableEq, Repr

/-- what happens when a fight ends, `on` being `win` or `lose` -/
structure CombatEvent (V : Type) where
  on : Text
  children : List V
deriving DecidableEq, Repr

/-- a fight -/
structure Combat (V : Type) where
  enemies : List Text
  events : List (CombatEvent V)
deriving DecidableEq, Repr

/-- a way to write cards -/
structure CardFormat (V : Type) where
  quest : QuestHeader → V
  roleplay : Roleplay V → V
  combat : Combat V → V
  trigger : Text → V
  /-- stands in for a unit that is no card -/
  placeholder : Text → V
  isQuest : V → Bool
  /-- the quest with the cards that follow it -/
  document : V → List V → V

end QuestScript
