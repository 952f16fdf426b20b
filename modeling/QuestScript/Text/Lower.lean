import QuestScript.Text.Basic
import QuestScript.Character.Properties

/-!
# Lower case

Each character is replaced by its lower-case form.  The capital sigma at the end of a word becomes
the final sigma: a letter stands before it and none after it, characters that do not end a word
being skipped on both sides.
-/

namespace QuestScript.Text

open Character

/-- the first character that can end a word is a letter with a case -/
def startsCased (t : Text) : Bool :=
  match t.dropWhile caseIgnorable.has with
  | [] => false
  | c :: _ => cased.has c

/-- lower case of a text; `before` is what precedes it, last character first -/
def lowerAfter (before : Text) : Text → Text
  | [] => []
  | c :: t =>
    (if c == 'Σ' then [if startsCased before && !startsCased t then 'ς' else 'σ'] else lower c) ++
      lowerAfter (c :: before) t

/-- the text in lower case -/
def lower (t : Text) : Text := lowerAfter [] t

/-- letters that differ in case only are made equal -/
def fold (t : Text) : Text := t.flatMap Character.fold

end QuestScript.Text
