import QuestScript.Command.Run

/-!
# The program

The files that a command line names are taken in, the command runs on them, and what it leaves
behind is written out.
-/

namespace QuestScript.Main

/-- what is at a path; what is in a directory counts only if `deep` -/
partial def treeAt (deep : Bool) (path : String) : IO (Option FileTree) := do
  let place := (← IO.currentDir) / path
  if ← place.isDir then
    if !deep then return some (.directory [])
    let mut entries := #[]
    for e in ← place.readDir do
      if let some t ← treeAt deep e.path.toString then
        entries := entries.push (e.fileName.toList, t)
    return some (.directory entries.toList)
  else if ← place.pathExists then
    let bytes ← try IO.FS.readBinFile place catch _ => pure (ByteArray.mk #[0xFF])
    return some (.file ((String.fromUTF8? bytes).map String.toList))
  else return none

/-- takes in what is at a path, and the directories on the way -/
def takeIn (fs : FileSystem) (path : Text) (deep : Bool) : IO FileSystem := do
  let mut root := fs.root
  let mut here := fs.origin path
  let mut walked := ""
  for part in Text.splitOn '/' path do
    walked := walked ++ String.ofList part ++ "/"
    if part = ['.', '.'] then here := here.dropLast
    else if part ≠ [] && part ≠ ['.'] then
      here := here ++ [part]
      if (root.descend? here).isNone then
        if let some t ← treeAt false (walked.dropEnd 1).toString then root := root.graft t here
  if deep then
    if let some t ← treeAt true (String.ofList path) then root := root.graft t here
  return { fs with root := root }

/-- the paths that a command line names, and whether all that is below them counts -/
def pathsOf (i : Invocation) : List (Text × Bool) :=
  (match i.command with
    | .compile o => (o.file, false) :: o.out.toList.map (·, false)
    | .test o => [(o.path, true)]) ++
    [(i.config.getD Config.defaultPath, false)]

/-- the files that a command line names -/
def fileSystem (args : List Text) : IO FileSystem := do
  let working := (Text.splitOn '/' (← IO.currentDir).toString.toList).filter (!·.isEmpty)
  let mut fs : FileSystem := ⟨(FileTree.directory []).graft (.directory []) working, working⟩
  if let .ok i := Invocation.ofArguments args then
    for (path, deep) in pathsOf i do
      fs ← takeIn fs path deep
  return fs

/-- the terminal shows colours, and nobody asked for none -/
def hasColors : IO Bool := do
  let terminal ← IO.getEnv "TERM"
  return terminal.isSome && terminal != some "dumb" && (← IO.getEnv "NO_COLOR").isNone

end QuestScript.Main

open QuestScript in
/-- runs the command line -/
def main (words : List String) : IO UInt32 := do
  let args := words.map String.toList
  let fs ← Main.fileSystem args
  let e := Arguments.run args (← Main.hasColors) fs
  for (names, content) in fs.root.changes e.files.root do
    IO.FS.writeFile (String.ofList ('/' :: Text.join ['/'] names)) (String.ofList (content.getD []))
  IO.print (String.ofList e.out)
  IO.eprint (String.ofList e.err)
  return e.exit.toUInt32
