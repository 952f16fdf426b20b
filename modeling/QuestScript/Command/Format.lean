import QuestScript.Compilation
import QuestScript.Card.Renderer
import QuestScript.Xml.Format
import QuestScript.Outline.Node

/-!
# Output formats

A script can be written as quest XML or as an outline.  `Format.render` gives all that can be asked
about a script in one format, as text.
-/

namespace QuestScript

/-- what a script is rendered to -/
inductive Format where
  | xml
  | outline
deriving DecidableEq, Repr

/-- what a render of a script gives, as text -/
structure Rendering where
  document : Text
  diagnostics : Categorized
  blocks : List Block
  metadata : List (Text × Text)
  /-- the value that a line belongs to, lines counted from 0 -/
  valueAt? : Nat → Option Text

namespace Format

/-- the formats by name -/
def names : List (Text × Format) := [("xml", xml), ("outline", outline)]

/-- renders with cards of one kind -/
def renderWith {V : Type} (cards : CardFormat V) (write : V → Text) (source : Text) : Rendering :=
  let c := Compilation.ofSource cards.renderer source
  { document := write c.document
    diagnostics := Categorized.ofList c.diagnostics
    blocks := c.blocks
    metadata := c.metadata cards.renderer
    valueAt? := fun n => (c.valueAt? n).map write }

/-- renders a script in a format -/
def render : Format → Text → Rendering
  | xml => renderWith Xml.format XmlNode.render
  | outline => renderWith Outline.format OutlineNode.render

end Format

end QuestScript
