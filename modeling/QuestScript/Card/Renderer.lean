import QuestScript.Card.Combat

/-!
# Rendering cards

Every way to write cards gives a renderer: units are read as cards, and the cards are written.  A
document starts with the quest; where the first value is none, an untitled quest takes its place.
-/

namespace QuestScript.CardFormat

variable {V : Type}

/-- the quest of a header unit -/
def questUnit (f : CardFormat V) (u : RenderUnit V) : V × List Diagnostic :=
  if u.anchor.indent > 0 then
    (f.placeholder "indented quest header", [Problem.indentedQuest.on [u.anchorId]])
  else
    let (header, problems) := QuestHeader.ofBlock u.anchor
    (f.quest header, problems.map (·.on [u.anchorId]))

/-- the trigger of a unit; it is expected to be a single line -/
def triggerUnit (f : CardFormat V) (u : RenderUnit V) : V × List Diagnostic :=
  let text := (u.anchor.firstLine?.bind Line.triggerText?).getD []
  let extra := !u.rest.isEmpty || u.anchor.lines.length > 1
  (f.trigger text, if extra then [Problem.triggerExtra.on u.ids] else [])

/-- the value of a unit -/
def unit (f : CardFormat V) (kind : LineKind) (u : RenderUnit V) : V × List Diagnostic :=
  match kind with
  | .root => f.questUnit u
  | .combat =>
    let (card, log) := Combat.ofUnit u
    (f.combat card, log)
  | .trigger => f.triggerUnit u
  | .narrative =>
    let (card, log) := Roleplay.ofUnit u
    (f.roleplay card, log)

/-- the document of the values at the least depth -/
def assemble (f : CardFormat V) (roots : List V) : V × List Diagnostic :=
  match roots with
  | [] => (f.document (f.quest .untitled) [], [])
  | first :: rest =>
    if f.isQuest first then (f.document first rest, [])
    else (f.document (f.quest .untitled) roots, [Problem.missingQuest.on []])

/-- what a quest header says, ordered by key; a block that is no quest header says nothing -/
def metadata (block : Option Block) : List (Text × Text) :=
  match block with
  | none => []
  | some b =>
    if b.firstLine?.any Line.isRoot then
      (QuestHeader.ofBlock b).1.pairs.foldl (fun m (key, value) => Attributes.insert key value m) []
    else []

/-- renders units as cards of a format -/
def renderer (f : CardFormat V) : Renderer V V := ⟨f.unit, f.assemble, metadata⟩

end QuestScript.CardFormat
