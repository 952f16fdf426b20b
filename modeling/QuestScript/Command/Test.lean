import QuestScript.Command.Arguments
import QuestScript.Command.Category
import QuestScript.Command.Frontmatter
import QuestScript.Command.Effects

/-!
# Running tests

A test passes if the render of its script is as the test expects: the document has all parts, the
messages have the codes, and there are as many of each severity.  The command runs the tests of the
selected categories and fails unless there are some and all of them pass.
-/

namespace QuestScript

/-- why a test fails -/
inductive TestFailure where
  | unreadable
  | malformed (error : FrontmatterError)
  | missingOutput (part document : Text)
  | codes (expected : List Nat) (actual : List Nat) (diagnostics : List Diagnostic)
  | unknownSeverity (name : Text)
  | count (expected : Nat) (severity : Severity) (actual : Nat)
deriving DecidableEq, Repr

namespace TestFailure

/-- a list of numbers in brackets -/
def listOf (ns : List Nat) : Text := '[' :: Text.join [',', ' '] (ns.map Text.ofNat) ++ [']']

def message : TestFailure → Text
  | unreadable => "cannot read file: ".toList ++ FileError.notText.message
  | malformed e => "frontmatter error: ".toList ++ e.message
  | missingOutput part document =>
    "output does not contain \"".toList ++ part ++ "\"\n  actual output:\n".toList ++
      Text.join ['\n'] ((Text.lines document).map fun l => Text.blanks 4 ++ l)
  | codes expected actual diagnostics =>
    "expected codes ".toList ++ listOf expected ++ ", got ".toList ++ listOf actual ++
      "\n  diagnostics:\n".toList ++
      if diagnostics.isEmpty then "    (none)".toList
      else Text.join ['\n'] (diagnostics.map fun d => "  - ".toList ++ d.display)
  | unknownSeverity name => ((Problem.unknownSeverity name).on []).display
  | count expected severity actual =>
    "expected ".toList ++ Text.ofNat expected ++ ' ' :: severity.name ++
      " diagnostic(s), got ".toList ++ Text.ofNat actual

end TestFailure

namespace Expectations

/-- the codes of all messages that are not just information -/
def codesOf (c : Categorized) : List Nat :=
  (c.all.filter (·.severity ≠ .info)).map Diagnostic.code

/-- some part is missing in the document -/
def checkOutput (x : Expectations) (r : Rendering) : Option TestFailure :=
  (x.output.find? fun part => !Text.hasPart part r.document).map (.missingOutput · r.document)

def checkCodes (x : Expectations) (r : Rendering) : Option TestFailure :=
  x.codes.bind fun expected =>
    let actual := codesOf r.diagnostics
    if actual = expected then Option.none
    else some (.codes expected actual r.diagnostics.all)

/-- the number of messages of a severity is another one than expected -/
def checkCount (r : Rendering) : Text × Nat → Option TestFailure
  | (name, expected) =>
    match Severity.ofName? name with
    | Option.none => some (.unknownSeverity name)
    | some severity =>
      let actual := (r.diagnostics.bucket severity).length
      if actual = expected then Option.none else some (.count expected severity actual)

/-- the first expectation that a render does not meet -/
def check (x : Expectations) (r : Rendering) : Option TestFailure :=
  ((checkOutput x r).or (checkCodes x r)).or ((x.counts.getD []).findSome? (checkCount r))

end Expectations

/-- a test that has been run: how it is called, and why it failed, if it did -/
structure TestResult where
  path : Text
  label : Text
  failure : Option TestFailure
deriving DecidableEq, Repr

namespace TestFile

/-- runs a test; it is called by its description, or else by the name of its file -/
def run (t : TestFile) : TestResult :=
  let failed (e : TestFailure) : TestResult := ⟨t.path, Text.fileStem t.path, some e⟩
  match t.content with
  | none => failed .unreadable
  | some content =>
    match Frontmatter.read content with
    | .error e => failed (.malformed e)
    | .ok (x, script) =>
      ⟨t.path, x.description.getD (Text.fileStem t.path), x.check (x.format.render script)⟩

end TestFile

namespace TestOptions

/-- a text in a style that terminals know by number -/
def paint (noColor : Bool) (style : Nat) (t : Text) : Text :=
  if noColor then t else "\x1b[".toList ++ Text.ofNat style ++ 'm' :: t ++ "\x1b[0m".toList

/-- the lines about the tests of one category -/
def categoryLines (noColor : Bool) (category : Text) (results : List TestResult) : List Text :=
  [] :: paint noColor 1 (Categories.label category) ::
    results.map fun r =>
      Text.blanks 2 ++
        (if r.failure.isNone then paint noColor 32 "PASS" else paint noColor 31 "FAIL") ++
        Text.blanks 2 ++ r.label

/-- the lines about one failure -/
def failureLines (r : TestResult) (failure : TestFailure) : List Text :=
  [] :: ("  --- ".toList ++ r.path ++ " ---".toList) ::
    (Text.lines failure.message).map (Text.blanks 2 ++ ·)

/-- the last line -/
def verdict (noColor : Bool) (passed failed : Nat) : Text :=
  let result := "test result: ".toList
  if failed = 0 then
    result ++ paint noColor 32 "ok" ++ ". ".toList ++ Text.ofNat passed ++
      " passed, 0 failed".toList
  else
    result ++ paint noColor 31 "FAILED" ++ ". ".toList ++ Text.ofNat passed ++ " passed, ".toList ++
      Text.ofNat failed ++ " failed (of ".toList ++ Text.ofNat (passed + failed) ++ [')']

/-- all lines about tests that have been run -/
def reportLines (noColor : Bool) (results : List (Text × List TestResult)) : List Text :=
  let all := results.flatMap Prod.snd
  let failures := all.flatMap fun r => (r.failure.map (failureLines r)).toList
  results.flatMap (fun (category, rs) => categoryLines noColor category rs) ++
    (if failures.isEmpty then [] else [] :: "failures:".toList :: failures.flatten) ++
    [[], verdict noColor (all.length - failures.length) failures.length]

/-- a category was requested that means nothing more -/
def warning (all : Categories) (request : Text) : Text :=
  "warning: category '".toList ++ request ++ "' not found (available: ".toList ++
    Text.join [',', ' '] (all.map fun (c, _) => Categories.label c) ++ [')']

/-- nothing is there to run -/
def noTests (path : Text) : Text := "no .test.md files found in ".toList ++ path

/-- runs tests by category -/
def runAll (selected : Categories) : List (Text × List TestResult) :=
  selected.map fun (category, tests) => (category, tests.map TestFile.run)

/-- runs the selected tests: the exit code, and what is said about them -/
def verdictOf (o : TestOptions) (noColor : Bool) (all : Categories) : Nat × List Text :=
  if all.isEmpty then (1, [noTests o.path])
  else
    let requests := o.categories.map Categories.trimRequest
    let warnings := (all.missed [] requests).map (warning all)
    let selected := all.select requests
    if selected.isEmpty then (1, warnings ++ ["no matching categories found".toList])
    else
      let results := runAll selected
      let ok := results.all fun (_, rs) => rs.all (·.failure.isNone)
      (if ok then 0 else 1, warnings ++ reportLines noColor results)

/-- lists the categories -/
def listing (path : Text) (fs : FileSystem) : List Text :=
  match fs.find path with
  | .ok (.file _) => ["(single file, no categories)"]
  | _ =>
    let all := Categories.find fs path
    if all.isEmpty then [noTests path]
    else
      "available categories:".toList :: all.map fun (category, tests) =>
        Text.blanks 2 ++ Categories.label category ++ ' ' :: '(' :: Text.ofNat tests.length ++
          " tests)".toList

/-- runs tests or lists their categories -/
def run (o : TestOptions) (noColor : Bool) (fs : FileSystem) : Effects :=
  if o.listCategories then .messages fs 0 (listing o.path fs)
  else
    let (exit, ls) := o.verdictOf noColor (Categories.find fs o.path)
    .messages fs exit ls

end TestOptions

end QuestScript
