import QuestScript.Card.Basic
import QuestScript.Render.Unit

/-!
# Reading roleplay cards

The first line of the anchor is the title if it stands between underscores.  Of the other lines,
those that start with `* ` are choices, and the lines between them are joined to paragraphs, block
by block.  What was folded into the unit goes to the choice before it.
-/

namespace QuestScript

namespace Line

/-- the text between underscores, as in `_Title_` -/
def title? (line : Text) : Option Text :=
  ((Text.dropPrefix? ['_'] line).bind (Text.dropSuffix? ['_'])).bind fun inner =>
    let title := Text.trim inner
    if title.isEmpty then none else some title

/-- the text of a choice, as in `* text` -/
def choice? (line : Text) : Option Text := (Text.dropPrefix? ['*', ' '] line).map Text.trim

end Line

namespace Roleplay

variable {V : Type}

/-- the pieces of the lines of one block -/
def itemsOfLines : List Text → List (BodyItem V)
  | [] => []
  | line :: rest =>
    match Line.choice? line with
    | some text => .choice text [] :: itemsOfLines rest
    | none =>
      match itemsOfLines rest with
      | .paragraph more :: items => .paragraph (line ++ ' ' :: more) :: items
      | items => .paragraph line :: items

/-- puts a card into the last piece, if that is a choice -/
def attach? (body : List (BodyItem V)) (value : V) : Option (List (BodyItem V)) :=
  match body.getLast? with
  | some (.choice text children) => some (body.dropLast ++ [.choice text (children ++ [value])])
  | _ => none

/-- goes on with one more member of the unit -/
def addMember : List (BodyItem V) × List Diagnostic → Member V →
    List (BodyItem V) × List Diagnostic
  | (body, log), .own _ b => (body ++ itemsOfLines b.lines, log)
  | (body, log), .folded id value =>
    match attach? body value with
    | some body => (body, log)
    | none => (body ++ [.child value], log ++ [Problem.strayChild.on [id]])

/-- the title in the first line of a block, and the other lines -/
def splitTitle (lines : List Text) : Option Text × List Text :=
  match lines.head?.bind Line.title? with
  | some title => (some title, lines.tail)
  | none => (none, lines)

/-- the card of a unit -/
def ofUnit (u : RenderUnit V) : Roleplay V × List Diagnostic :=
  let (title, lines) := splitTitle u.anchor.lines
  let (body, log) := u.rest.foldl addMember (itemsOfLines lines, [])
  (⟨title, body⟩, log)

end Roleplay

end QuestScript
