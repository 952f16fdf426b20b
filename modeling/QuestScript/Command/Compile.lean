import QuestScript.Command.Arguments
import QuestScript.Command.Config
import QuestScript.Command.Effects
import QuestScript.Report.Layout

/-!
# Compiling a script

The command shows the document, or in its place one card or the metadata, and then reports what is
wrong with the script.  It fails if the script has errors, and on warnings only if they are denied.
-/

namespace QuestScript

/-- why there is nothing to show -/
inductive CompileError where
  | unreadable (file : Text) (error : FileError)
  | unwritable (path : Text) (error : FileError)
  /-- no card has the line, counted from 1 -/
  | noCard (line : Nat)
deriving DecidableEq, Repr

def CompileError.message : CompileError → Text
  | unreadable file e => "cannot read '".toList ++ file ++ "': ".toList ++ e.message
  | unwritable path e => "cannot write '".toList ++ path ++ "': ".toList ++ e.message
  | noCard line => "no card at line ".toList ++ Text.ofNat line

namespace CompileOptions

/-- what is shown of a script -/
def output (o : CompileOptions) (r : Rendering) : Except CompileError (Option Text) :=
  if o.check then .ok none
  else if o.metadata then .ok (some (Toml.writeEntries r.metadata))
  else
    match o.line with
    | none => .ok (some r.document)
    | some n =>
      match r.valueAt? (n - 1) with
      | some value => .ok (some value)
      | none => .error (.noCard n)

/-- standard output and the files after a text is shown -/
def show? (o : CompileOptions) (fs : FileSystem) :
    Option Text → Except CompileError (Text × FileSystem)
  | none => .ok ([], fs)
  | some t =>
    match o.out with
    | none => .ok (t, fs)
    | some path => ((fs.write path t).map fun fs => ([], fs)).mapError (.unwritable path)

end CompileOptions

namespace Rendering

/-- the messages that are reported -/
def reported (r : Rendering) (showInternal : Bool) : List Diagnostic :=
  r.diagnostics.all.filter fun d => showInternal || d.severity ≠ .internal

/-- what is reported about a script: every message with the source it is about, and a summary -/
def reports (r : Rendering) (file source : Text) (colored showInternal : Bool) : Text :=
  let shown := r.reported showInternal
  let report (d : Diagnostic) : Text :=
    (d.report (Block.spans source r.blocks d.blocks)).write file source colored
  shown.flatMap report ++
    if shown.isEmpty then []
    else file ++ ':' :: ' ' :: r.diagnostics.summary showInternal ++ ['\n']

/-- the messages make a compilation fail -/
def failed (r : Rendering) (denyWarnings showInternal : Bool) : Bool :=
  !r.diagnostics.error.isEmpty || (showInternal && !r.diagnostics.internal.isEmpty) ||
    (denyWarnings && !r.diagnostics.warning.isEmpty)

end Rendering

namespace CompileOptions

/-- compiles a script that has been read -/
def ofSource (o : CompileOptions) (config : Config) (colored : Bool) (fs : FileSystem)
    (source : Text) : Except CompileError Effects := do
  let r := (o.format.getD config.format).render source
  let (out, files) ← o.show? fs (← o.output r)
  let failed := r.failed (o.denyWarnings || config.denyWarnings) config.showInternal
  return ⟨if failed then 1 else 0, out,
    r.reports o.file source colored config.showInternal, files⟩

/-- compiles a script -/
def run (o : CompileOptions) (config : Config) (colored : Bool) (fs : FileSystem) : Effects :=
  let effects := do
    let source ← (fs.read o.file).mapError (CompileError.unreadable o.file)
    o.ofSource config colored fs source
  match effects with
  | .ok effects => effects
  | .error e => .failure fs e.message

end CompileOptions

end QuestScript
