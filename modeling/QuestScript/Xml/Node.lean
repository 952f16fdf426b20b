import QuestScript.Xml.Escape

/-!
# XML

A tree of elements, text and ready-made markup, and how it is written: an element whose children are
all inline stands on one line, and otherwise every child stands on a line of its own, indented by
two columns to a level.
-/

namespace QuestScript

/-- a node of an XML tree -/
inductive XmlNode where
  | element (name : Text) (attributes : List (Text × Text)) (children : List XmlNode)
  | text (content : Text)
  /-- markup that is written as it is -/
  | markup (content : Text)
deriving Repr

namespace Xml

/-- an attribute in a start tag, with the blank before it -/
def startTagPart : Text × Text → Text
  | (key, value) => ' ' :: key ++ ['=', '"'] ++ escapeAttribute value ++ ['"']

end Xml

namespace XmlNode

/-! ## looking at a node -/

/-- the name of an element -/
def name? : XmlNode → Option Text
  | element name _ _ => some name
  | _ => none

def attributes : XmlNode → List (Text × Text)
  | element _ attrs _ => attrs
  | _ => []

def children : XmlNode → List XmlNode
  | element _ _ cs => cs
  | _ => []

/-- the value of the first attribute with a key -/
def attribute? (n : XmlNode) (key : Text) : Option Text := n.attributes.lookup key

/-- the children that are elements -/
def elements (n : XmlNode) : List XmlNode := n.children.filter (·.name?.isSome)

/-- the node is no element -/
def isInline (n : XmlNode) : Bool := n.name?.isNone

/-! ## building -/

/-- the element with more children at its end -/
def append : XmlNode → List XmlNode → XmlNode
  | element name attrs cs, more => element name attrs (cs ++ more)
  | node, _ => node

/-! ## writing -/

/-- the text of a node that is no element -/
def inline : XmlNode → Text
  | text t => Xml.escape t
  | markup m => m
  | element _ _ _ => []

mutual

/-- the lines of a node at a depth of nesting -/
def renderAt (depth : Nat) : XmlNode → Text
  | text t => Text.blanks (2 * depth) ++ Xml.escape t ++ ['\n']
  | markup m => Text.blanks (2 * depth) ++ m ++ ['\n']
  | element name attrs cs =>
    let start := Text.blanks (2 * depth) ++ '<' :: name ++ attrs.flatMap Xml.startTagPart
    let stop := '<' :: '/' :: name ++ ['>', '\n']
    if cs.isEmpty then start ++ ['/', '>', '\n']
    else if cs.all isInline then start ++ '>' :: cs.flatMap inline ++ stop
    else start ++ ['>', '\n'] ++ renderAllAt (depth + 1) cs ++ Text.blanks (2 * depth) ++ stop

/-- the lines of nodes at one depth of nesting -/
def renderAllAt (depth : Nat) : List XmlNode → Text
  | [] => []
  | c :: cs => renderAt depth c ++ renderAllAt depth cs

end

/-- a tree in full -/
def render (n : XmlNode) : Text := renderAt 0 n

end XmlNode

end QuestScript
