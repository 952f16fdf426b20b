import QuestScript.Markup.Phrase

/-!
# Inline markup

A paragraph of a card as markup: emphasis is written with tags, all else is text.  Block structure
is flattened, so that its pieces follow each other.
-/

namespace QuestScript.Markup

/-- a leaf as phrases -/
def Leaf.phrases (labels : List Text) : Leaf → List Phrase
  | .running before content => Phrase.ofTokens (Token.ofText labels before content)
  | .verbatim content => [.text content]

/-- a text as phrases -/
def phrases (t : Text) : List Phrase :=
  let (leaves, labels) := Leaf.ofText t
  leaves.flatMap (Leaf.phrases labels)

/-- what is found in a text: code and raw tags count as text, a line end as a blank, and scopes that
are not written are left out -/
def events (t : Text) : List Event := Phrase.eventsAll (phrases t)

/-- a text as markup -/
def inline (t : Text) : Text := write (events t)

end QuestScript.Markup
