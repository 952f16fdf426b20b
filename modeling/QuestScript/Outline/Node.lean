import QuestScript.Card.Basic

/-!
# Outlines

An outline shows the structure of a quest, one line for each card, indented by two columns to a
level of nesting.  Paragraphs and the attributes of the quest are left out.
-/

namespace QuestScript

/-- a line of an outline and the lines below it -/
inductive OutlineNode where
  | node (kind label : Text) (children : List OutlineNode)
deriving Repr

namespace OutlineNode

def kind : OutlineNode → Text
  | node k _ _ => k

def label : OutlineNode → Text
  | node _ l _ => l

def children : OutlineNode → List OutlineNode
  | node _ _ cs => cs

/-- the node with more children at its end -/
def append : OutlineNode → List OutlineNode → OutlineNode
  | node k l cs, more => node k l (cs ++ more)

/-- the line of a node without its indentation: the kind, and the label if there is one -/
def line (kind label : Text) : Text := if label.isEmpty then kind else kind ++ ':' :: ' ' :: label

mutual

/-- the lines of a node at a depth of nesting -/
def renderAt (depth : Nat) : OutlineNode → Text
  | node k l cs => Text.blanks (2 * depth) ++ line k l ++ '\n' :: renderAllAt (depth + 1) cs

/-- the lines of nodes at one depth of nesting -/
def renderAllAt (depth : Nat) : List OutlineNode → Text
  | [] => []
  | c :: cs => renderAt depth c ++ renderAllAt depth cs

end

/-- an outline in full -/
def render (n : OutlineNode) : Text := renderAt 0 n

end OutlineNode

namespace Outline

def questKind : Text := "quest"

/-- the line of a piece of a roleplay card; paragraphs have none -/
def bodyNode? : BodyItem OutlineNode → Option OutlineNode
  | .paragraph _ => none
  | .choice text children => some (.node "choice" text children)
  | .child value => some value

/-- cards as outlines -/
def format : CardFormat OutlineNode where
  quest q := .node questKind q.title []
  roleplay card := .node "roleplay" (card.title.getD []) (card.body.filterMap bodyNode?)
  combat card :=
    .node "combat" (Text.join [',', ' '] card.enemies)
      (card.events.map fun e => .node "event" e.on e.children)
  trigger text := .node "trigger" text []
  placeholder message := .node "error" message []
  isQuest n := n.kind == questKind
  document quest children := quest.append children

end Outline

end QuestScript
