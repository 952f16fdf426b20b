import QuestScript.Files.Tree
import QuestScript.Text.Lines

/-!
# Effects

What a command leaves behind: an exit code, what it wrote to standard output and to standard error,
and the files.
-/

namespace QuestScript

structure Effects where
  exit : Nat
  out : Text
  err : Text
  files : FileSystem

namespace Effects

/-- a command that ends with messages, one to a line, and writes nothing else -/
def messages (files : FileSystem) (exit : Nat) (ls : List Text) : Effects :=
  ⟨exit, [], Text.unlines ls, files⟩

/-- a command that fails with one message -/
def failure (files : FileSystem) (message : Text) : Effects :=
  messages files 1 ["error: ".toList ++ message]

end Effects

end QuestScript
