import QuestScript.Command.Compile
import QuestScript.Command.Test

/-!
# The command line as a whole

`Arguments.run` does what a command line asks for, on a file system: it reads the configuration and
runs the command.  A command line that cannot be understood ends with exit code 2.
-/

namespace QuestScript

/-- the name and the version of the program -/
def versionText : Text := "qdl 0.1.0\n"

/-- what is left behind where no command is run -/
def Stop.effects (fs : FileSystem) : Stop → Effects
  | usage => ⟨2, [], [], fs⟩
  | help => ⟨0, [], [], fs⟩
  | version => ⟨0, versionText, [], fs⟩

/-- runs a command; `terminal` says that reports can be coloured -/
def Invocation.run (i : Invocation) (terminal : Bool) (fs : FileSystem) : Effects :=
  match Config.load fs i.config with
  | .error e => .failure fs e.message
  | .ok config =>
    match i.command with
    | .compile o => o.run config (terminal && !i.noColor) fs
    | .test o => o.run i.noColor fs

/-- does what a command line asks for -/
def Arguments.run (args : List Text) (terminal : Bool) (fs : FileSystem) : Effects :=
  match Invocation.ofArguments args with
  | .error stop => stop.effects fs
  | .ok i => i.run terminal fs

end QuestScript
