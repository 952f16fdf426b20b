import QuestScript.Diagnostic.Basic

/-!
# Styled text

A report is a sequence of strokes: pieces of text, and between them changes of style.  Without
colour only the text is written; with colour every change of style is an escape sequence.
-/

namespace QuestScript

/-- the styles of a report -/
inductive Style where
  /-- the word that a report starts with -/
  | header (s : Severity)
  | headerMessage
  /-- line numbers and the border beside them -/
  | border
  | label (s : Severity) (primary : Bool)
deriving DecidableEq, Repr

/-- a piece of text or a change of style -/
inductive Stroke where
  | text (t : Text)
  | set (s : Style)
  | reset
deriving DecidableEq, Repr

namespace Style

/-- the number of the colour of a severity -/
def color : Severity → Nat
  | .info => 2
  | .warning => 3
  | .error => 1
  | .internal => 1

def resetCode : Text := "\x1b[0m"

/-- the escape sequences of a style -/
def code : Style → Text
  | header s => resetCode ++ "\x1b[1m\x1b[38;5;".toList ++ Text.ofNat (color s + 8) ++ ['m']
  | headerMessage => resetCode ++ "\x1b[1m".toList
  | border => resetCode ++ "\x1b[36m".toList
  | label s true => resetCode ++ "\x1b[3".toList ++ Text.ofNat (color s) ++ ['m']
  | label _ false => resetCode ++ "\x1b[36m".toList

end Style

namespace Stroke

/-- a stroke as it is written -/
def write (colored : Bool) : Stroke → Text
  | text t => t
  | set s => if colored then s.code else []
  | reset => if colored then Style.resetCode else []

/-- strokes one after the other -/
def writeAll (colored : Bool) (strokes : List Stroke) : Text := strokes.flatMap (write colored)

/-- text in one style -/
def styled (s : Style) (t : Text) : List Stroke := [set s, text t, reset]

def newLine : Stroke := text ['\n']

end Stroke

end QuestScript
