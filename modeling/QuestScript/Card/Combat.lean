import QuestScript.Card.Roleplay

/-!
# Reading combat cards

The first line of the anchor names enemies after `_combat_`, with commas between them.  Of the other
lines, those that start with `- ` name one more enemy each, and `* on win` and `* on lose` open an
event.  What was folded into the unit goes to the event that is open.
-/

namespace QuestScript

/-- what a line of a combat card says -/
inductive CombatLine where
  /-- an enemy; the name may be empty, and then there is none -/
  | enemy (name : Text)
  | event (on : Text)
  | unknownEvent (choice : Text)
  | other (line : Text)
deriving DecidableEq, Repr

namespace CombatLine

/-- the event that a choice names -/
def event? (choice : Text) : Option Text :=
  ((Text.dropPrefix? "on " choice).map Text.trim).filter fun on =>
    on = "win".toList || on = "lose".toList

/-- reads one line -/
def ofText (line : Text) : CombatLine :=
  match Text.dropPrefix? ['-', ' '] line with
  | some name => .enemy (Text.trim name)
  | none =>
    match Line.choice? line with
    | none => .other line
    | some choice =>
      match event? choice with
      | some on => .event on
      | none => .unknownEvent choice

end CombatLine

/-- a combat card being read -/
structure CombatReading (V : Type) where
  card : Combat V
  /-- the last event takes what is folded into the unit -/
  isOpen : Bool
  log : List Diagnostic
deriving DecidableEq, Repr

namespace CombatReading

variable {V : Type}

/-- one more enemy, unless the name is empty -/
def addEnemy (r : CombatReading V) (name : Text) : CombatReading V :=
  if name.isEmpty then r else { r with card := ⟨r.card.enemies ++ [name], r.card.events⟩ }

/-- goes on with a line of the block `id` -/
def addLine (id : Nat) (r : CombatReading V) (line : Text) : CombatReading V :=
  match CombatLine.ofText line with
  | .enemy name => r.addEnemy name
  | .event on => ⟨⟨r.card.enemies, r.card.events ++ [⟨on, []⟩]⟩, true, r.log⟩
  | .unknownEvent choice => ⟨r.card, false, r.log ++ [(Problem.unknownEvent choice).on [id]]⟩
  | .other line => ⟨r.card, r.isOpen, r.log ++ [(Problem.malformedCombatLine line).on [id]]⟩

/-- puts a card into the last event -/
def attach? (events : List (CombatEvent V)) (value : V) : Option (List (CombatEvent V)) :=
  events.getLast?.map fun e => events.dropLast ++ [⟨e.on, e.children ++ [value]⟩]

/-- goes on with one more member of the unit -/
def addMember (r : CombatReading V) : Member V → CombatReading V
  | .own id b => b.lines.foldl (addLine id) r
  | .folded id value =>
    match if r.isOpen then attach? r.card.events value else none with
    | some events => { r with card := ⟨r.card.enemies, events⟩ }
    | none => { r with log := r.log ++ [Problem.strayCombatChild.on [id]] }

/-- the names in the first line -/
def headerEnemies (header : Text) : List Text :=
  let names := (Text.dropPrefix? Line.combatMark header).getD header
  ((Text.splitOn ',' names).map Text.trim).filter (!·.isEmpty)

/-- reads the members of a unit -/
def ofUnit (u : RenderUnit V) : CombatReading V :=
  let header := (u.anchor.lines.head?.map headerEnemies).getD []
  let start : CombatReading V := ⟨⟨header, []⟩, false, []⟩
  u.rest.foldl addMember (u.anchor.lines.tail.foldl (addLine u.anchorId) start)

end CombatReading

/-- the card of a unit -/
def Combat.ofUnit {V : Type} (u : RenderUnit V) : Combat V × List Diagnostic :=
  let r := CombatReading.ofUnit u
  (r.card, r.log ++ if r.card.enemies.isEmpty then [Problem.noEnemies.on [u.anchorId]] else [])

end QuestScript
