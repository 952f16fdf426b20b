import QuestScript.Command.Format
import QuestScript.Text.Lines
import QuestScript.Toml.Decode
import QuestScript.Toml.Reader

/-!
# Test files

A test file is a script with expectations in front of it: between two lines that start with three
hyphens stands a configuration text that says what a render of the script must give.
-/

namespace QuestScript

/-- what a test expects of its script -/
structure Expectations where
  description : Option Text
  format : Format
  /-- parts of the document -/
  output : List Text
  /-- the numbers of all messages that are not just information -/
  codes : Option (List Nat)
  /-- numbers of messages by severity -/
  counts : Option (List (Text × Nat))
deriving DecidableEq, Repr

/-- why a test file cannot be read -/
inductive FrontmatterError where
  | noOpening
  | noClosing
  | malformed (source : Text) (fault : Toml.Fault)
deriving DecidableEq, Repr

namespace FrontmatterError

def message : FrontmatterError → Text
  | noOpening => "missing opening --- frontmatter delimiter"
  | noClosing => "missing closing --- frontmatter delimiter"
  | malformed source fault => "TOML parse error: ".toList ++ fault.display source

end FrontmatterError

namespace Expectations

/-- a test that expects nothing -/
def none : Expectations := ⟨Option.none, .xml, [], Option.none, Option.none⟩

def keys : List Text := ["description", "format", "expect_output", "expect_codes", "expect_counts"]

open Toml.Decoder in
/-- goes on with the value of a key -/
def setField (x : Expectations) (key : Text) (e : Toml.Extent) (v : Toml.Value) :
    Except Toml.Fault Expectations :=
  if key = "description".toList then do return { x with description := some (← text e v) }
  else if key = "format".toList then do return { x with format := ← choice Format.names e v }
  else if key = "expect_output".toList then do return { x with output := ← list text e v }
  else if key = "expect_codes".toList then do
    return { x with codes := some (← list (natural (Nat.pow 2 16) "u16") e v) }
  else do return { x with counts := some (← entries (natural (Nat.pow 2 64) "usize") e v) }

/-- reads expectations -/
def ofText (source : Text) : Except Toml.Fault Expectations :=
  Toml.read source >>= Toml.Decoder.fields keys setField none

end Expectations

namespace Frontmatter

/-- the hyphens that the lines around the frontmatter start with -/
def delimiter : Text := ['-', '-', '-']

/-- leaves out one line end, if there is one -/
def dropLineEnd (t : Text) : Text :=
  match t with
  | '\n' :: r => r
  | '\r' :: '\n' :: r => r
  | _ => t

/-- the frontmatter of a test file and its script -/
def split (content : Text) : Except FrontmatterError (Text × Text) :=
  match Text.dropPrefix? delimiter (content.dropWhile (· == '\ufeff')) with
  | none => .error .noOpening
  | some opened =>
    match Text.splitAtPart ('\n' :: delimiter) (dropLineEnd opened) with
    | none => .error .noClosing
    | some (front, rest) => .ok (Text.dropWhileEnd (· == '\r') front, dropLineEnd rest)

/-- reads a test file -/
def read (content : Text) : Except FrontmatterError (Expectations × Text) := do
  let (front, script) ← split content
  let x ← (Expectations.ofText front).mapError (.malformed front)
  return (x, script)

end Frontmatter

end QuestScript
