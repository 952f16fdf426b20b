import QuestScript.Xml.Escape

/-!
# Events

What a reader of marked up text finds is a sequence of events: scopes start and stop, and text, raw
or not, stands between.  Events are written one by one.  Strong, emphasised and struck out text has
the tags `<b>`, `<i>` and `<del>`; of every other scope only what stands in it is left; whatever is
text is escaped.
-/

namespace QuestScript.Markup

/-- what text stands in -/
inductive Scope where
  | strong
  | emphasis
  | struck
  /-- a paragraph, an item, a link and so on -/
  | other (name : Text)
deriving DecidableEq, Repr

/-- the name of the element that a scope is written as -/
def Scope.element? : Scope → Option Text
  | strong => some ['b']
  | emphasis => some ['i']
  | struck => some ['d', 'e', 'l']
  | other _ => none

/-- one thing that a reader finds in a text -/
inductive Event where
  | start (scope : Scope)
  | stop (scope : Scope)
  | text (content : Text)
  | code (content : Text)
  | html (content : Text)
  | inlineHtml (content : Text)
  | softBreak
  | hardBreak
  /-- a rule, the mark of a note or of a task, and so on -/
  | other
deriving DecidableEq, Repr

/-- an event as markup -/
def Event.markup : Event → Text
  | start scope => (scope.element?.map fun name => '<' :: name ++ ['>']).getD []
  | stop scope => (scope.element?.map fun name => '<' :: '/' :: name ++ ['>']).getD []
  | text s | code s | html s | inlineHtml s => Xml.escape s
  | softBreak | hardBreak => [' ']
  | other => []

/-- events as markup, one after the other -/
def write (events : List Event) : Text := events.flatMap Event.markup

end QuestScript.Markup
