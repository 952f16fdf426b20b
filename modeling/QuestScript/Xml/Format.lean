import QuestScript.Card.Basic
import QuestScript.Xml.Node
import QuestScript.Markup.Inline

/-!
# Cards as XML

The elements of quest XML.  The quest carries its header as attributes; the paragraphs of a roleplay
card are read as inline markup.
-/

namespace QuestScript.Xml

def questName : Text := "quest"

/-- an element without attributes that holds a text -/
def textElement (name content : Text) : XmlNode := .element name [] [.text content]

/-- the element of a piece of a roleplay card -/
def bodyNode : BodyItem XmlNode → XmlNode
  | .paragraph text => .element "p" [] [.markup (Markup.inline text)]
  | .choice text children => .element "choice" [("text", text)] children
  | .child value => value

/-- cards as XML -/
def format : CardFormat XmlNode where
  quest q := .element questName q.pairs []
  roleplay card :=
    .element "roleplay" (card.title.toList.map fun t => ("title", t)) (card.body.map bodyNode)
  combat card :=
    .element "combat" []
      (card.enemies.map (textElement "e") ++
        card.events.map fun e => .element "event" [("on", e.on)] e.children)
  trigger text := textElement "trigger" text
  placeholder message := textElement "error" message
  isQuest n := n.name? == some questName
  document quest children := quest.append children

end QuestScript.Xml
