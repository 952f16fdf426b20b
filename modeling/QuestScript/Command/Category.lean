import QuestScript.Files.Tree

/-!
# Tests by category

The tests under a directory are filed by category: the folder that a test is in, relative to the
directory.  A request names a category and means those below it as well.
-/

namespace QuestScript

/-- a test file: its path, the names that lead to it, and its content, if that is text -/
structure TestFile where
  path : Text
  names : List Text
  content : Option Text
deriving DecidableEq, Repr

/-- test files by category, ordered by category -/
abbrev Categories := List (Text × List TestFile)

namespace Categories

/-- the end of the name of a test file -/
def suffix : Text := ".test.md"

/-- the category of the names that lead to a test file -/
def ofNames (names : List Text) : Text :=
  (Text.join ['/'] names.dropLast).map fun c => if c == '\\' then '/' else c

/-- files a test under its category -/
def insert (category : Text) (test : TestFile) : Categories → Categories
  | [] => [(category, [test])]
  | (c, tests) :: all =>
    if category = c then (c, tests ++ [test]) :: all
    else if Text.before category c then (category, [test]) :: (c, tests) :: all
    else (c, tests) :: insert category test all

mutual

/-- the tests in something at the end of a path -/
def testsAt (path : Text) (names : List Text) : FileTree → List TestFile
  | .file content =>
    if Text.endsWith suffix (names.getLast?.getD []) then [⟨path, names, content⟩] else []
  | .directory entries => testsIn path names entries

/-- the tests among the entries of a directory -/
def testsIn (path : Text) (names : List Text) : List (Text × FileTree) → List TestFile
  | [] => []
  | (name, t) :: entries =>
    testsAt (Text.pathJoin path name) (names ++ [name]) t ++ testsIn path names entries

end

/-- the tests of a category are ordered by the names that lead to them -/
def sortTests (tests : List TestFile) : List TestFile :=
  tests.mergeSort fun a b => !decide (b.names < a.names)

/-- the tests under the directory at the end of a path -/
def ofDirectory (path : Text) (t : FileTree) : Categories :=
  let filed := (testsAt path [] t).foldl (fun all test => insert (ofNames test.names) test all) []
  filed.map fun (category, tests) => (category, sortTests tests)

/-- one test file, whatever its name -/
def ofFile (path : Text) (content : Option Text) : Categories := [([], [⟨path, [], content⟩])]

/-- the tests at the end of a path; where nothing is, there are no tests -/
def find (fs : FileSystem) (path : Text) : Categories :=
  match fs.find path with
  | .ok (.file content) => ofFile path content
  | .ok t => ofDirectory path t
  | .error _ => []

/-- a category as it is shown -/
def label (category : Text) : Text := if category.isEmpty then "(root)" else category

/-- a requested name without the slashes around it -/
def trimRequest (request : Text) : Text :=
  Text.dropWhileEnd (· == '/') (request.dropWhile (· == '/'))

/-- the category is the one requested, or below it -/
def isIn (request category : Text) : Bool :=
  category == request || Text.startsWith (request ++ ['/']) category

/-- the categories that some request means; all of them if nothing is requested -/
def select (all : Categories) (requests : List Text) : Categories :=
  if requests.isEmpty then all
  else all.filter fun (category, _) => requests.any (isIn · category)

/-- the requests that mean no category beyond those that earlier requests mean -/
def missed (all : Categories) (earlier : List Text) : List Text → List Text
  | [] => []
  | request :: requests =>
    let rest := missed all (earlier ++ [request]) requests
    let isNew (category : Text) : Bool :=
      isIn request category && !earlier.any (isIn · category)
    if all.any fun (category, _) => isNew category then rest else request :: rest

end Categories

end QuestScript
