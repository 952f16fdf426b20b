import QuestScript.Text.Basic

/-!
# Diagnostics

A diagnostic is one message about a quest script or about a render of it: how serious it is, a
number that stays the same from version to version, the text, and the blocks it is about.  Numbers
below 500 are about the script, numbers from 500 on about the render.
-/

namespace QuestScript

/-- how serious a message is -/
inductive Severity where
  | info
  | warning
  | error
  /-- a render broke one of its own rules -/
  | internal
deriving DecidableEq, Repr

namespace Severity

/-- all severities, in the order in which messages are listed -/
def all : List Severity := [.info, .warning, .error, .internal]

def name : Severity → Text
  | .info => "info"
  | .warning => "warning"
  | .error => "error"
  | .internal => "internal"

/-- the severity of a name -/
def ofName? (t : Text) : Option Severity := all.find? (·.name == t)

end Severity

/-- one message -/
structure Diagnostic where
  severity : Severity
  code : Nat
  message : Text
  /-- the ids of the blocks the message is about -/
  blocks : List Nat
deriving DecidableEq, Repr

namespace Diagnostic

/-- the number belongs to the render, not to the script -/
def isInternalCode (code : Nat) : Bool := 500 ≤ code

/-- the message in one line -/
def display (d : Diagnostic) : Text :=
  d.severity.name ++ '[' :: Text.ofNat d.code ++ [']', ':', ' '] ++ d.message

end Diagnostic

end QuestScript
