import QuestScript.Text.Basic

/-!
# Files

A file system is a tree of directories with a working directory in it.  The parts of a path are
separated by slashes; `.` is the directory itself and `..` the one that holds it.

* `FileTree.changes`  the files that differ from an earlier tree;
* `FileSystem.find`   what a path leads to;
* `FileSystem.read`   the text of a file;
* `FileSystem.write`  the file system with a file in place.
-/

namespace QuestScript

/-- a file with its text, if its bytes are a text, or a directory -/
inductive FileTree where
  | file (content : Option Text)
  | directory (entries : List (Text × FileTree))
deriving Repr

/-- why a path cannot be used -/
inductive FileError where
  | missing
  | notADirectory
  | isADirectory
  | notText
deriving DecidableEq, Repr

def FileError.message : FileError → Text
  | missing => "No such file or directory (os error 2)"
  | notADirectory => "Not a directory (os error 20)"
  | isADirectory => "Is a directory (os error 21)"
  | notText => "stream did not contain valid UTF-8"

namespace FileTree

/-- what is under a name -/
def entry? (name : Text) : FileTree → Option FileTree
  | file _ => none
  | directory entries => entries.lookup name

/-- what is at the end of a sequence of names -/
def descend? (t : FileTree) (names : List Text) : Option FileTree :=
  names.foldlM (fun t name => t.entry? name) t

/-- puts something under a name -/
def setEntry (t : FileTree) (name : Text) (node : FileTree) : FileTree :=
  match t with
  | file content => file content
  | directory entries =>
    if (entries.lookup name).isSome then
      directory (entries.map fun e => if e.1 = name then (name, node) else e)
    else directory (entries ++ [(name, node)])

/-- puts something at the end of a sequence of names; directories on the way that are not there are
made -/
def graft (t : FileTree) (node : FileTree) : List Text → FileTree
  | [] => node
  | name :: names =>
    t.setEntry name (graft ((t.entry? name).getD (directory [])) node names)

def isFile : FileTree → Bool
  | file _ => true
  | directory _ => false

mutual

/-- the files of a tree with the names that lead to them -/
def files (names : List Text) : FileTree → List (List Text × Option Text)
  | file content => [(names, content)]
  | directory entries => filesIn names entries

/-- the files among the entries of a directory -/
def filesIn (names : List Text) : List (Text × FileTree) → List (List Text × Option Text)
  | [] => []
  | (name, t) :: entries => files (names ++ [name]) t ++ filesIn names entries

end

/-- the files that are not as they are in an earlier tree -/
def changes (earlier now : FileTree) : List (List Text × Option Text) :=
  let before := earlier.files []
  (now.files []).filter fun f => !before.contains f

end FileTree

/-- a tree of files and the directory that paths start from -/
structure FileSystem where
  root : FileTree
  /-- the names that lead to the working directory -/
  working : List Text

namespace FileSystem

/-- goes on from a directory along the parts of a path -/
def follow (root : FileTree) (here : List Text) : List Text → Except FileError (List Text)
  | [] => .ok here
  | part :: parts =>
    match root.descend? here with
    | some (.directory entries) =>
      if part = [] || part = ['.'] then follow root here parts
      else if part = ['.', '.'] then follow root here.dropLast parts
      else if (entries.lookup part).isSome then follow root (here ++ [part]) parts
      else .error .missing
    | _ => .error .notADirectory

/-- the directory that a path starts from -/
def origin (fs : FileSystem) (path : Text) : List Text :=
  if path.head? = some '/' then [] else fs.working

/-- the names that lead to where a path leads to -/
def locate (fs : FileSystem) (path : Text) : Except FileError (List Text) :=
  if path.isEmpty then .error .missing
  else follow fs.root (fs.origin path) (Text.splitOn '/' path)

/-- what a path leads to -/
def find (fs : FileSystem) (path : Text) : Except FileError FileTree := do
  match fs.root.descend? (← fs.locate path) with
  | some t => return t
  | none => throw .missing

/-- something is there -/
def has (fs : FileSystem) (path : Text) : Bool := (fs.find path).toOption.isSome

/-- the text of a file -/
def read (fs : FileSystem) (path : Text) : Except FileError Text := do
  match ← fs.find path with
  | .file (some t) => return t
  | .file none => throw .notText
  | .directory _ => throw .isADirectory

/-- the file system with a file in place, which may be new; its directory has to be there -/
def write (fs : FileSystem) (path content : Text) : Except FileError FileSystem := do
  let parts := Text.splitOn '/' (Text.dropWhileEnd (· == '/') path)
  let name := parts.getLast?.getD []
  if path.isEmpty then throw .missing
  let parent ← follow fs.root (fs.origin path) parts.dropLast
  match fs.root.descend? parent with
  | some (.directory entries) =>
    let isDirectory := ((entries.lookup name).map fun t => !t.isFile).getD false
    if isDirectory || path.getLast? = some '/' || name = ['.'] || name = ['.', '.'] then
      throw .isADirectory
    return { fs with root := fs.root.graft (.file (some content)) (parent ++ [name]) }
  | _ => throw .notADirectory

end FileSystem

/-- the path of something in a directory -/
def Text.pathJoin (directory name : Text) : Text :=
  if directory.isEmpty || directory.getLast? = some '/' then directory ++ name
  else directory ++ '/' :: name

/-- the last part of a path without what follows the last point in it, unless the part starts with
that point -/
def Text.fileStem (path : Text) : Text :=
  let name := ((Text.splitOn '/' path).getLast?).getD []
  match (name.reverse.dropWhile (· != '.')).drop 1 with
  | [] => name
  | stem => stem.reverse

end QuestScript
