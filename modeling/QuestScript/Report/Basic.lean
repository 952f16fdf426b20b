import QuestScript.Diagnostic.Log
import QuestScript.Report.Span

/-!
# Reports

A report is a diagnostic as a reader of the source sees it: the first block it is about is labelled
as the primary place, the others as secondary places.  `Categorized.summary` counts the problems in
one line.
-/

namespace QuestScript

/-- a marked place in a source -/
structure Label where
  primary : Bool
  span : Span
deriving DecidableEq, Repr

/-- a diagnostic with marked places -/
structure Report where
  severity : Severity
  code : Nat
  message : Text
  labels : List Label
deriving DecidableEq, Repr

namespace Report

/-- the word a report starts with -/
def severityWord : Severity → Text
  | .info => "note"
  | .warning => "warning"
  | .error => "error"
  | .internal => "bug"

/-- the first span is the primary one -/
def labelsOf : List Span → List Label
  | [] => []
  | s :: ss => ⟨true, s⟩ :: ss.map (⟨false, ·⟩)

end Report

/-- the report of a diagnostic about the given spans -/
def Diagnostic.report (d : Diagnostic) (spans : List Span) : Report :=
  ⟨d.severity, d.code, d.message, Report.labelsOf spans⟩

namespace Categorized

/-- a number of things -/
def plural (n : Nat) (noun : Text) : Text :=
  if n = 1 then '1' :: ' ' :: noun else Text.ofNat n ++ ' ' :: noun ++ ['s']

/-- the numbers of problems -/
def summary (c : Categorized) (showInternal : Bool) : Text :=
  let counts := [plural c.error.length "error", plural c.warning.length "warning"]
  let internal :=
    if showInternal && !c.internal.isEmpty then [plural c.internal.length "internal error"] else []
  Text.join [',', ' '] (counts ++ internal)

end Categorized

end QuestScript
